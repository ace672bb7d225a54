import RecordWatch.Proofs.Property.Relation
import RecordWatch.Proofs.Session.Crash
import RecordWatch.Proofs.Snapshot.Reported

/-! Relations that are cut short. A comparison sees only the raw values of a relation, while a
trigger sees its completed list. So a relation whose list has changed since the last successful poll
is reported unless its raw value is equal to the one before, as that is read back; and then it is
cut short, and only the answers to lookups differ. -/

namespace RecordWatch

/-! ### Values that are read back -/

/-- What a property value in a snapshot is read back as. -/
def Json.reread? (value : Json) : Option Json := (value.redraft 3).toJson?

/-- The values of a record that is read back are its own values, each read back. -/
theorem Record.get?_of_reread? {record read : Record} (h : record.reread? = some read)
    (ho : record.Ordered) {name : String} {value : Json}
    (hv : record.properties.get? name = some value) :
    ∃ old, value.reread? = some old ∧ read.properties.get? name = some old := by
  obtain ⟨properties, hproperties, rfl⟩ := Option.map_eq_some_iff.mp h
  obtain ⟨values, hvalues, rfl⟩ := Option.map_eq_some_iff.mp hproperties
  obtain ⟨old, hold, hget⟩ := Json.get?_of_redraftFields hvalues hv
  have hsorted := Json.sorted_of_bareFields (Json.bareFields_of_redraft ho.2 hvalues) ho.1
  exact ⟨old, hold, by rw [Fields.ofList_of_sorted hsorted, hget]⟩

theorem Json.Ordered.get? {fields : Fields Json} (h : (Json.object fields).Ordered) {name : String}
    {value : Json} (hv : fields.get? name = some value) : value.Ordered :=
  Json.orderedFields_iff.mp h.2 _ (Fields.get?_eq_some_mem hv)

/-- Equal values of relations with different lists are cut short, even if one of them is compared as
it is read back. -/
theorem Json.LinksTo.cutShort_of_same {raw raw' old : Json}
    {lookup lookup' : String → Except ApiError (List Json)} {ids ids' : List String}
    (h : raw.LinksTo lookup ids) (h' : raw'.LinksTo lookup' ids') (ho : raw.Ordered)
    (hold : raw.reread? = some old) (hs : old.same raw' = true) (hne : ids ≠ ids') :
    ∃ id shown, raw.CutShort id shown ∧ raw'.CutShort id shown ∧ lookup id ≠ lookup' id :=
  h.cutShort h' ((Json.bare_of_redraft ho hold).symm.trans (Json.bare_of_same hs)) hne

/-! ### Two polls -/

section

variable {ε : Type} {env : Environment ε} {root : String} {settings : Settings}

namespace PollRecord

/-- A poll that succeeds leaves an overlay with the records that it received. -/
theorem Ends.holds {r : PollRecord ε} (h : r.Ends env root settings) (hs : r.Succeeds)
    {gathered : Gathered} {latest : List Record} (hg : r.gathered = .ok gathered)
    (hl : gathered.latest? = some latest) :
    ∃ stored, r.after.store (env.snapshot root settings r.collection) =
      some (SnapshotStore.bytesOf (Snapshot.overlay stored latest)) := by
  cases h with
  | left hr _ _ =>
    obtain ⟨poll, hresult, hne⟩ := hs
    rcases hr with ⟨error, hr⟩ | ⟨-, hr⟩
    · rw [hresult] at hr
      cases hr
    · rw [hresult] at hr
      cases hr
      exact absurd rfl hne
  | aside hn _ _ _ =>
    rw [hg] at hn
    cases hn
    cases hl
  | seeded hn _ _ _ _ _ hm =>
    rw [hg] at hn
    cases hn
    cases hl
    exact ⟨_, (hm.held _).trans (Function.update_self _ _ _)⟩
  | merged hn _ _ _ _ _ hm =>
    rw [hg] at hn
    cases hn
    cases hl
    exact ⟨_, (hm.held _).trans (Function.update_self _ _ _)⟩

/-- A poll compares what it can load with what it receives. -/
theorem Polled.compares {r : PollRecord ε} (h : r.Polled env root settings) (hs : env.Sound)
    (hp : env.snapshot root settings r.collection ≠ settings.rulesPath)
    {stored latest : List Record} (hl : SnapshotStore.loaded r.collection.id
      (r.before.store (env.snapshot root settings r.collection)) = .ok stored)
    (ha : ∀ filter e,
      (env.query r.collection.id r.collection.filterProperties filter e).1 = .ok latest) :
    r.gathered = .ok (.comparison stored latest) := by
  have hends := h.ends hp
  obtain ⟨hsucceeds, -⟩ := h.succeeds hs hp (fun filter e => ⟨latest, ha filter e⟩) stored
    (SnapshotStore.base?_of_loaded hl)
  rcases hends.of_succeeds hsucceeds with ⟨-, -, -, hnone⟩ |
    ⟨stored', latest', changes, fired, hl', hg, hr⟩
  · rw [hnone hs] at hl
    cases hl
  · cases hl.symm.trans hl'
    obtain ⟨middle, evaluated, -, -, hq, -, -⟩ := hends.of_comparison hg hr
    rw [fetch_run, ha] at hq
    cases hq
    exact hg

/-- A poll tells of the last record that it received of a key exactly the values that are different
from the stored ones; what else it tells is about an earlier one. -/
theorem tells_of_find? {q : PollRecord ε} {stored latest : List Record}
    (hg : q.gathered = .ok (.comparison stored latest)) {key : String} {record kept : Record}
    (hf : Delta.find? latest key = some record) (hk : Delta.find? stored key = some kept)
    {name : String} (ha : name ∈ q.collection.activeProperties) {value old : Json}
    (hv : record.properties.get? name = some value) (ho : kept.properties.get? name = some old) :
    (old.same value = false → q.Tells key name value) ∧
      ((latest.map Record.key).Nodup → q.Tells key name value → old.same value = false) := by
  have hkey := (Delta.find?_some hf).2
  subst hkey
  constructor
  · intro hs
    obtain ⟨before, after, hrecord, hvalue⟩ := (Delta.ofRecord?_propertyChanged_iff hk).mpr
      ⟨ha, hv, fun other hother => by rw [← hs, Option.some.inj (hother.symm.trans ho)]⟩
    exact ⟨stored, latest, before, after, hg, Delta.get?_changes_of_last hf hrecord, hvalue⟩
  · rintro hd ⟨stored', latest', before, after, hg', hentry, hvalue⟩
    cases hg.symm.trans hg'
    rw [Delta.get?_changes_of_mem stored _ hd (Delta.find?_some hf).1] at hentry
    exact ((Delta.ofRecord?_propertyChanged_iff hk).mp ⟨before, after, hentry, hvalue⟩).2.2 old ho

/-- What a poll tells of a relation that had another list when it was received last. It is told if
the raw value differs from the stored one, and of records with different keys only then. Where it is
not told, both values are cut short and show the same, and only what is looked up differs. -/
structure TellsLinks (q : PollRecord ε) (latest : List Record) (key name : String)
    (raw old raw' : Json) (lookup lookup' : String → Except ApiError (List Json)) : Prop where
  told (h : old.same raw' = false) : q.Tells key name raw'
  exact (hd : (latest.map Record.key).Nodup) : q.Tells key name raw' ↔ old.same raw' = false
  hidden (h : ¬q.Tells key name raw') :
    ∃ id shown, raw.CutShort id shown ∧ raw'.CutShort id shown ∧ lookup id ≠ lookup' id

end PollRecord

/-- Two polls of a snapshot, the first of which succeeds and the second of which compares, and none
between them that succeeds, in any run and whatever the environment does. Both received a record of
the key with a relation that is active in the second poll, and its list differs. -/
theorem Session.tellsLinks_history {session : Option Session} {directives : List Directive}
    {w : World ε Files}
    (hp : ∀ r ∈ history env root settings session directives w,
      env.snapshot root settings r.collection ≠ settings.rulesPath)
    {a b c : List (PollRecord ε)} {p q : PollRecord ε}
    (h : history env root settings session directives w = a ++ p :: (b ++ q :: c))
    (hplace : env.snapshot root settings q.collection = env.snapshot root settings p.collection)
    (hs : p.Succeeds)
    (hb : ∀ r ∈ b, env.snapshot root settings r.collection =
      env.snapshot root settings p.collection → ¬r.Succeeds)
    {gathered : Gathered} (hg : p.gathered = .ok gathered) {received : List Record}
    (hl : gathered.latest? = some received) {stored latest : List Record}
    (hg' : q.gathered = .ok (.comparison stored latest)) {key : String} {record record' : Record}
    (hf : Delta.find? received key = some record) (hf' : Delta.find? latest key = some record')
    (ho : record.Ordered) {name : String} (ha : name ∈ q.collection.activeProperties)
    {raw raw' : Json} (hraw : record.properties.get? name = some raw)
    (hraw' : record'.properties.get? name = some raw')
    {lookup lookup' : String → Except ApiError (List Json)} {ids ids' : List String}
    (hids : raw.LinksTo lookup ids) (hids' : raw'.LinksTo lookup' ids') (hne : ids ≠ ids') :
    ∃ old, raw.reread? = some old ∧ q.TellsLinks latest key name raw old raw' lookup lookup' := by
  have hpolled : ∀ r ∈ a ++ p :: (b ++ q :: c), r.Polled env root settings :=
    fun r hr => polled_history env root settings (h ▸ hr)
  have hends : ∀ r ∈ a ++ p :: (b ++ q :: c), r.Ends env root settings :=
    fun r hr => (hpolled r hr).ends (hp r (h ▸ hr))
  have hchain := chain_history env root settings session directives w
  rw [h] at hchain hp
  have hafter := hchain.split.2
  have hpq := hp p (by simp)
  -- The second poll compares with what is read back of the records that the first one received.
  obtain ⟨base, hheld⟩ := (hends p (by simp)).holds hs hg hl
  have hstays := hafter.init.stays hpq (fun r hr => hpolled r (by simp [hr])) hb
  rw [← hafter.split.1.store, ← hplace] at hstays
  have hloaded : SnapshotStore.loaded q.collection.id
      (q.before.store (env.snapshot root settings q.collection)) = .ok stored := by
    obtain ⟨middle, hgathers, -⟩ := (hpolled q (by simp)).halves (hp q (by simp))
    rw [hg'] at hgathers
    cases hgathers with
    | comparison hstored _ _ => exact hstored
  have hkept : q.before.store (env.snapshot root settings q.collection) =
      some (SnapshotStore.bytesOf (Snapshot.overlay base received)) := by
    rcases hstays with hkept | ⟨-, hnone⟩
    · rw [hkept, hplace, hheld]
    · rw [hnone] at hloaded
      cases hloaded
  rw [hkept] at hloaded
  obtain ⟨kept, hread, hfound⟩ := SnapshotStore.find?_of_loaded hloaded hf
  obtain ⟨old, hold, hvalue⟩ := Record.get?_of_reread? hread ho hraw
  obtain ⟨htold, honly⟩ := PollRecord.tells_of_find? hg' hf' hfound ha hraw' hvalue
  refine ⟨old, hold, htold, fun hd => ⟨honly hd, htold⟩, fun hnot => ?_⟩
  refine hids.cutShort_of_same hids' (ho.get? hraw) hold ?_ hne
  by_contra hdiffers
  exact hnot (htold (Bool.not_eq_true _ ▸ hdiffers))

end

/-! ### A relation that grows out of sight -/

/-- A rule that waits for a third job to be linked. -/
def linkEntry : RuleEntry where
  uid := none
  filterProperties := []
  contentFilter := none
  trigger := .object [("property", .string "Jobs"),
    ("relation", .object [("contains", .string "j-3")])]
  actions := .nothing

/-- The collection that the rule watches. -/
def linkCollection : Collection := ⟨"c1", [linkEntry.toRule 0]⟩

/-- A relation that shows one job of several. -/
def someJobs : Json :=
  .object [("has_more", .bool true), ("id", .string "jo"),
    ("relation", .array [.object [("id", .string "j-1")]]), ("type", .string "relation")]

/-- The record with that relation, as it is at every query. -/
def linked : Record where
  id := "r-1"
  createdTime := none
  lastEditedTime := none
  properties := [("Jobs", someJobs)]

/-- The other job, which changes with the second query. -/
def otherJob (queries : Nat) : Json :=
  .object [("relation", .object [("id", .string (if queries = 1 then "j-2" else "j-3"))])]

/-- An environment in which the record does not change, but the job that it does not show does. -/
def linkEnvironment : Environment Nat :=
  { Environment.answering (fun _ => .ok [linked]) [("c-1", [linkEntry])] with
    items := fun _ _ n => (.ok [otherJob n], n) }

/-- The session that watches the collection, with the times of its last successes. -/
def linkSession (lastSuccess : Fields Instant) : Session :=
  ⟨[linkCollection], some 0, lastSuccess, default⟩

/-- The first poll, which stores the record for the first time. -/
def linkSeeding : PollRecord Nat :=
  (linkSession []).record linkEnvironment "store" ⟨"rules", 3600, 600⟩ linkCollection
    ⟨0, fun _ => none, []⟩

/-- The second poll, which compares the record with itself. -/
def linkPoll : PollRecord Nat :=
  (linkSession [("c1", default)]).record linkEnvironment "store" ⟨"rules", 3600, 600⟩
    linkCollection linkSeeding.after

theorem history_link : Session.history linkEnvironment "store" ⟨"rules", 3600, 600⟩
    (some (linkSession [])) [.cycle, .cycle] ⟨0, fun _ => none, []⟩ = [linkSeeding, linkPoll] := by
  have hobey : Session.obey (linkEnvironment.surroundings "store" ⟨"rules", 3600, 600⟩)
      (some (linkSession [])) .cycle ⟨0, fun _ => none, []⟩ =
      ((some (linkSession [("c1", default)]), some (.ok ⟨1, 0, 0, 0⟩)), linkSeeding.after) := rfl
  have hsecond : Session.directivePolls linkEnvironment "store" ⟨"rules", 3600, 600⟩
      (some (linkSession [("c1", default)])) .cycle linkSeeding.after = [linkPoll] :=
    Session.polls_singleton _ _ _ _ _ _
  rw [Session.history_cons _ _ _ hobey, Session.history, hsecond]
  rfl

theorem legible_linked : linked.Legible := by
  refine Record.legible_of_exact (List.pairwise_singleton _ _) ⟨⟨by decide, ?_, ?_⟩, trivial⟩
  · rw [Fields.Sorted]
    decide
  · exact ⟨trivial, trivial, ⟨by decide, ⟨by decide, List.pairwise_singleton _ _, trivial, trivial⟩,
      trivial⟩, trivial, trivial⟩

/-- The other job is another one at the second poll, and nothing is told. -/
theorem tellsLinks_jobs :
    linkPoll.TellsLinks [linked] "r1" "Jobs" someJobs someJobs someJobs
        (fun id => (linkEnvironment.items "r1" id 1).1)
        (fun id => (linkEnvironment.items "r1" id 2).1) ∧
      ¬linkPoll.Tells "r1" "Jobs" someJobs := by
  have hsound : linkEnvironment.Sound :=
    ⟨fun _ _ => rfl, fun _ _ => rfl, fun _ _ => rfl, fun _ _ => rfl⟩
  have hplace : ∀ r : PollRecord Nat, linkEnvironment.snapshot "store" ⟨"rules", 3600, 600⟩
      r.collection ≠ "rules" := fun r => snapshot_ne_rulesPath _ _ _ r.collection (by decide)
  have hlegible : ∀ record ∈ [linked], record.Legible := by
    intro record hrecord
    rw [List.mem_singleton.mp hrecord]
    exact legible_linked
  have hpolled : linkPoll.Polled linkEnvironment "store" ⟨"rules", 3600, 600⟩ := ⟨_, _, _, rfl⟩
  have hgathered : linkPoll.gathered = .ok (.comparison [linked] [linked]) :=
    hpolled.compares hsound (hplace linkPoll) (SnapshotStore.loaded_of_legible hlegible "c1")
      fun _ _ => rfl
  have hfirst : someJobs.LinksTo (fun id => (linkEnvironment.items "r1" id 1).1) ["j-1", "j-2"] :=
    ⟨some "jo", ["j-1"], true, rfl, rfl⟩
  have hsecond : someJobs.LinksTo (fun id => (linkEnvironment.items "r1" id 2).1) ["j-1", "j-3"] :=
    ⟨some "jo", ["j-1"], true, rfl, rfl⟩
  have hseeding : linkSeeding.gathered = .ok (.seeding [linked]) := rfl
  have hfind : Delta.find? [linked] "r1" = some linked := rfl
  have hactive : "Jobs" ∈ linkPoll.collection.activeProperties := by decide +kernel
  have hjobs : linked.properties.get? "Jobs" = some someJobs := rfl
  obtain ⟨old, hold, htells⟩ := Session.tellsLinks_history (a := []) (b := []) (c := [])
    (fun r _ => hplace r) history_link rfl ⟨.seeded, rfl, nofun⟩ (by simp) hseeding rfl hgathered
    hfind hfind legible_linked.ordered hactive hjobs hjobs hfirst hsecond (by decide)
  cases hold
  exact ⟨htells, fun htold => by cases (htells.exact (List.pairwise_singleton _ _)).mp htold⟩

end RecordWatch
