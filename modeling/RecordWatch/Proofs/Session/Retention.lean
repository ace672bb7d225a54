import RecordWatch.Proofs.Session.Recovery

/-! What a comparison remembers of a record. A merge keeps the last record that was received of a
key as a whole, so a property that this record did not carry is forgotten, whatever earlier records
said of it. A property is reported against that record alone, as it is read back from the
snapshot. -/

namespace RecordWatch

/-! ### Values that are reported -/

namespace Delta

/-- A property of a record that was there before is reported with a value if it is active, the
record carries the value, and the stored record has no value of it or another one. -/
theorem ofRecord?_propertyChanged_iff {old : List Record} {active : List String}
    {record stored : Record} (hf : find? old record.key = some stored) {name : String}
    {value : Json} :
    (∃ before after, ofRecord? old active record = some (.propertyChanged before after) ∧
        after.get? name = some value) ↔
      name ∈ active ∧ record.properties.get? name = some value ∧
        ∀ old, stored.properties.get? name = some old → old.same value = false := by
  constructor
  · rintro ⟨before, after, hrecord, hv⟩
    have hne : changedProperties stored.properties record.properties active ≠ [] := by
      intro hnil
      rw [ofRecord?_of_unchanged hf hnil] at hrecord
      cases hrecord
    rw [ofRecord?_of_changed hf hne] at hrecord
    cases hrecord
    rw [get?_newValues] at hv
    split at hv
    · next hactive =>
      obtain ⟨values, hchanged, rfl⟩ := Option.map_eq_some_iff.mp hv
      have hvalue := snd_changed? hchanged
      refine ⟨hactive, hvalue, (changed?_isSome hvalue).mp ?_⟩
      rw [hchanged]
      rfl
    · cases hv
  · rintro ⟨hactive, hvalue, hdiffers⟩
    obtain ⟨values, hchanged⟩ :=
      Option.isSome_iff_exists.mp ((changed?_isSome hvalue).mpr hdiffers)
    have hmem : (name, values) ∈
        changedProperties stored.properties record.properties active :=
      List.mem_filterMap.mpr ⟨name, hactive, by rw [hchanged]; rfl⟩
    refine ⟨_, _, ofRecord?_of_changed hf (List.ne_nil_of_mem hmem), ?_⟩
    rw [get?_newValues, if_pos hactive, hchanged, ← hvalue, snd_changed? hchanged]
    rfl

/-- What is reported of a key is the change of one of the latest records of the key. -/
theorem exists_of_get?_changes {old latest : List Record} {active : List String} {key : String}
    {change : ChangeSet} (h : (changes old latest active).get? key = some change) :
    ∃ record ∈ latest, record.key = key ∧ ofRecord? old active record = some change := by
  rw [get?_changes] at h
  obtain ⟨record, hr, hrecord⟩ := List.exists_of_findSome?_eq_some h
  split at hrecord
  · next hk => exact ⟨record, List.mem_reverse.mp hr, hk, hrecord⟩
  · cases hrecord

/-- The value of a property that was received last for a key. -/
def lastValue? (received : List Record) (key name : String) : Option Json :=
  received.reverse.findSome? fun record =>
    if record.key = key then record.properties.get? name else none

theorem lastValue?_of_last {received : List Record} {key name : String} {last : Record}
    {value : Json} (hl : find? received key = some last)
    (hv : last.properties.get? name = some value) :
    lastValue? received key name = some value := by
  -- Both look from the end of the list.
  rw [find?_eq_find?_reverse] at hl
  rw [lastValue?]
  generalize received.reverse = records at hl ⊢
  induction records with
  | nil => cases hl
  | cons record rest ih =>
    rw [List.find?_cons] at hl
    rw [List.findSome?_cons]
    by_cases hk : record.key = key
    · rw [decide_eq_true hk] at hl
      cases hl
      rw [if_pos hk, hv]
    · rw [decide_eq_false hk] at hl
      rw [if_neg hk]
      exact ih hl

end Delta

/-! ### Records that are remembered -/

/-- A record and what it may be read back as, after it was stored any number of times. -/
def Record.Rereads : Record → Record → Prop :=
  Relation.ReflTransGen fun record read => record.reread? = some read

theorem Record.Rereads.eq {record read : Record} (h : record.Rereads read)
    (hl : record.Legible) : read = record := by
  induction h with
  | refl => rfl
  | tail _ hread ih =>
    subst ih
    exact Option.some.inj (hread.symm.trans (Record.legible_iff.mp hl))

namespace SnapshotStore

/-- Stored records are the last ones received of their keys, as they were read back. -/
def Recalls (received stored : List Record) : Prop :=
  ∀ key, Option.Rel Record.Rereads (Delta.find? received key) (Delta.find? stored key)

theorem rel_find? {records read : List Record}
    (h : List.Forall₂ (fun record read => record.reread? = some read) records read)
    (key : String) : Option.Rel (fun record read => record.reread? = some read)
      (Delta.find? records key) (Delta.find? read key) := by
  induction h with
  | nil => exact .none
  | @cons record read records others hread _ ih =>
    rw [Delta.find?_cons, Delta.find?_cons, Record.reread?_key hread]
    generalize Delta.find? records key = found at ih
    generalize Delta.find? others key = found' at ih
    cases ih with
    | some hfound => exact .some hfound
    | none =>
      rw [Option.none_or, Option.none_or]
      split
      · exact .some hread
      · exact .none

theorem Recalls.overlay {received stored latest read : List Record}
    (h : Recalls received stored)
    (hr : List.Forall₂ (fun record read => record.reread? = some read)
      (Snapshot.overlay stored latest) read) : Recalls (received ++ latest) read := by
  intro key
  have hkey := h key
  have hread := rel_find? hr key
  rw [Snapshot.find?_overlay] at hread
  rw [Delta.find?_append]
  -- The latest record of the key counts; without one the stored record is read back once more.
  generalize Delta.find? read key = final at hread ⊢
  cases hl : Delta.find? latest key with
  | some record =>
    rw [hl, Option.some_or] at hread
    rw [Option.some_or]
    cases hread with
    | some hone => exact .some (.single hone)
  | none =>
    rw [hl, Option.none_or] at hread
    rw [Option.none_or]
    generalize Delta.find? received key = last at hkey ⊢
    generalize Delta.find? stored key = kept at hkey hread
    cases hkey with
    | none =>
      cases hread
      exact .none
    | some hbefore =>
      cases hread with
      | some hone => exact .some (hbefore.tail hone)

/-- A snapshot that recalls what was received, unless it cannot be loaded. -/
def Remembers (received : List Record) (content : Option ByteArray) : Prop :=
  ∀ (collection : String) (stored : List Record),
    loaded collection content = .ok stored → Recalls received stored

theorem remembers_none (received : List Record) : Remembers received none := by
  intro collection stored h
  cases h

theorem remembers_overlay {received stored : List Record} (h : Recalls received stored)
    (latest : List Record) :
    Remembers (received ++ latest) (some (bytesOf (Snapshot.overlay stored latest))) := by
  intro collection read hl
  rw [loaded_bytesOf, ← Record.listOfText?_listText] at hl
  cases hr : Record.listOfText? (Record.listText (Snapshot.overlay stored latest)) with
  | none =>
    rw [hr] at hl
    cases hl
  | some others =>
    rw [hr] at hl
    cases hl
    exact h.overlay (Record.listOfText?_listText_some hr)

end SnapshotStore

/-! ### Runs -/

section

variable {ε : Type} (env : Environment ε) (root : String) (settings : Settings)

namespace PollRecord

/-- The records that a successful poll received. -/
def accepted (r : PollRecord ε) : List Record :=
  match r.result, r.gathered with
  | .ok _, .ok gathered => gathered.latest?.getD []
  | _, _ => []

/-- The records that successful polls received for the snapshot at a path, in order. -/
def received (path : String) (records : List (PollRecord ε)) : List Record :=
  records.flatMap fun r =>
    if env.snapshot root settings r.collection = path then r.accepted else []

/-- The poll reports a value of a property of a record that was there before. -/
def Tells (r : PollRecord ε) (key name : String) (value : Json) : Prop :=
  ∃ stored latest before after, r.gathered = .ok (.comparison stored latest) ∧
    (Delta.changes stored latest r.collection.activeProperties).get? key =
      some (.propertyChanged before after) ∧
    after.get? name = some value

variable {env root settings}

theorem accepted_of_nothing {r : PollRecord ε} (h : r.gathered = .ok .nothing) :
    r.accepted = [] := by
  rw [accepted, h]
  cases r.result <;> rfl

theorem accepted_of_error {r : PollRecord ε} {error : SessionError}
    (h : r.result = .error error) : r.accepted = [] := by
  rw [accepted, h]

/-- A poll that does not seed the snapshot anew adds what it received to what is remembered. -/
theorem Ends.remembers {r : PollRecord ε} (h : r.Ends env root settings) {c : String}
    (hn : ¬r.Seeds env root settings ((env.store root settings).path c)) {earlier : List Record}
    (hk : SnapshotStore.Remembers earlier (r.before.store ((env.store root settings).path c))) :
    SnapshotStore.Remembers
      (earlier ++ received env root settings ((env.store root settings).path c) [r])
      (r.after.store ((env.store root settings).path c)) := by
  rw [received, List.flatMap_singleton]
  by_cases hc : env.snapshot root settings r.collection = (env.store root settings).path c
  · rw [if_pos hc]
    cases h with
    | left hr _ hheld =>
      have hnone : r.accepted = [] := by
        rcases hr with ⟨error, hr⟩ | ⟨hg, -⟩
        · exact accepted_of_error hr
        · exact accepted_of_nothing hg
      rwa [hnone, List.append_nil, hheld]
    | aside _ _ _ hl =>
      rw [hl.held, ← hc, Function.update_self]
      exact SnapshotStore.remembers_none _
    | seeded _ hr _ _ _ _ _ => exact absurd ⟨hc, hr⟩ hn
    | @merged stored latest poll _ _ hg hr hs _ _ _ hl =>
      have haccepted : r.accepted = latest := by
        rw [accepted, hr, hg]
        rfl
      rw [haccepted, hl.held, ← hc, Function.update_self]
      rw [← hc] at hk
      exact SnapshotStore.remembers_overlay (hk _ _ hs) latest
  · rw [if_neg hc, List.append_nil, h.held_of_ne hc]
    exact hk

/-- The poll that makes a snapshot remembers what it received. -/
theorem Ends.remembers_of_seeds {r : PollRecord ε} (h : r.Ends env root settings) {c : String}
    (hs : r.Seeds env root settings ((env.store root settings).path c))
    (hn : r.before.store ((env.store root settings).path c) = none) :
    SnapshotStore.Remembers (received env root settings ((env.store root settings).path c) [r])
      (r.after.store ((env.store root settings).path c)) := by
  obtain ⟨hplace, hresult⟩ := hs
  rw [received, List.flatMap_singleton, if_pos hplace]
  cases h with
  | left hr _ _ =>
    rcases hr with ⟨error, hr⟩ | ⟨-, hr⟩
    · rw [hresult] at hr
      cases hr
    · rw [hresult] at hr
      cases hr
  | aside _ hr _ _ =>
    rw [hresult] at hr
    cases hr
  | @seeded latest base _ hg _ _ hb _ _ hl =>
    have haccepted : r.accepted = latest := by
      rw [accepted, hresult, hg]
      rfl
    have hbase : base = [] := by
      rw [hplace, hn] at hb
      cases hb
      rfl
    rw [haccepted, hl.held, ← hplace, Function.update_self, hbase]
    have hnothing : SnapshotStore.Recalls [] [] := fun _ => .none
    exact SnapshotStore.remembers_overlay hnothing latest
  | merged _ hr _ _ _ he _ =>
    obtain ⟨-, changes, fired, rfl⟩ := evaluate_leads he
    rw [hresult] at hr
    cases hr

theorem received_cons (path : String) (r : PollRecord ε) (records : List (PollRecord ε)) :
    received env root settings path (r :: records) =
      received env root settings path [r] ++ received env root settings path records := by
  rw [received, received, List.flatMap_cons, List.flatMap_singleton]
  rfl

theorem Chain.remembers {w : World ε Files} {records : List (PollRecord ε)}
    (hc : Chain env w records) {c : String} (he : ∀ r ∈ records, r.Ends env root settings)
    (hn : ∀ r ∈ records, ¬r.Seeds env root settings ((env.store root settings).path c))
    {earlier : List Record}
    (hk : SnapshotStore.Remembers earlier (w.store ((env.store root settings).path c))) :
    SnapshotStore.Remembers
      (earlier ++ received env root settings ((env.store root settings).path c) records)
      ((Session.final w records).store ((env.store root settings).path c)) := by
  -- Each poll adds to what was received before.
  induction hc generalizing earlier with
  | nil w =>
    rw [received, List.flatMap_nil, List.append_nil]
    exact hk
  | @cons w r rest hw _ ih =>
    rw [Session.final_cons, received_cons, ← List.append_assoc]
    refine ih (fun r hr => he r (List.mem_cons_of_mem _ hr))
      (fun r hr => hn r (List.mem_cons_of_mem _ hr)) ?_
    refine (he r List.mem_cons_self).remembers (hn r List.mem_cons_self) ?_
    rwa [hw.store]

variable (r : PollRecord ε) (earlier : List Record)

/-- What a poll reports of properties, given the records that were received before. A property is
reported against the last record of the key, as it is read back, and against no other; where that
record is legible and the latest records have different keys, this is exactly when. So a value that
was received before is reported as a change only if the last record did not carry the property or
is not read back as it was. -/
structure TellsSinceLast : Prop where
  told {key name : String} {value : Json} (h : r.Tells key name value) :
    name ∈ r.collection.activeProperties ∧
      ∃ last read, Delta.find? earlier key = some last ∧ last.Rereads read ∧
        ∀ old, read.properties.get? name = some old → old.same value = false
  exact {stored latest : List Record} (hg : r.gathered = .ok (.comparison stored latest))
    (hd : (latest.map Record.key).Nodup) {record last : Record} (hr : record ∈ latest)
    (hl : Delta.find? earlier record.key = some last) (hlegible : last.Legible) (name : String)
    (value : Json) :
    r.Tells record.key name value ↔
      name ∈ r.collection.activeProperties ∧ record.properties.get? name = some value ∧
        ∀ old, last.properties.get? name = some old → old.same value = false
  phantom {key name : String} {value old : Json} (h : r.Tells key name value)
    (ho : Delta.lastValue? earlier key name = some old) (hs : old.same value = true) :
    ∃ last, Delta.find? earlier key = some last ∧
      (last.properties.get? name = none ∨ ¬last.Legible)

variable {r earlier}

theorem Polled.tellsSinceLast (h : r.Polled env root settings)
    (hp : env.snapshot root settings r.collection ≠ settings.rulesPath)
    (hk : SnapshotStore.Remembers earlier
      (r.before.store (env.snapshot root settings r.collection))) :
    r.TellsSinceLast earlier := by
  have hrecalls : ∀ {stored latest}, r.gathered = .ok (.comparison stored latest) →
      SnapshotStore.Recalls earlier stored := by
    intro stored latest hg
    obtain ⟨middle, hgathers, -⟩ := h.halves hp
    rw [hg] at hgathers
    cases hgathers with
    | comparison hs _ _ => exact hk _ _ hs
  have htold : ∀ {key name value}, r.Tells key name value →
      name ∈ r.collection.activeProperties ∧
        ∃ last read, Delta.find? earlier key = some last ∧ last.Rereads read ∧
          ∀ old, read.properties.get? name = some old → old.same value = false := by
    rintro key name value ⟨stored, latest, before, after, hg, hentry, hvalue⟩
    obtain ⟨record, -, rfl, hrecord⟩ := Delta.exists_of_get?_changes hentry
    have hrel := hrecalls hg record.key
    cases hf : Delta.find? stored record.key with
    | none =>
      rw [Delta.ofRecord?_of_new hf] at hrecord
      cases hrecord
    | some read =>
      obtain ⟨hactive, -, hdiffers⟩ :=
        (Delta.ofRecord?_propertyChanged_iff hf).mp ⟨before, after, hrecord, hvalue⟩
      rw [hf] at hrel
      generalize Delta.find? earlier record.key = found at hrel
      cases hrel with
      | some hrereads => exact ⟨hactive, _, _, rfl, hrereads, hdiffers⟩
  refine ⟨htold, ?_, ?_⟩
  · intro stored latest hg hd record last hr hl hlegible name value
    have hrel := hrecalls hg record.key
    rw [hl] at hrel
    have hf : Delta.find? stored record.key = some last := by
      generalize Delta.find? stored record.key = found at hrel
      cases hrel with
      | some hrereads => rw [hrereads.eq hlegible]
    rw [← Delta.ofRecord?_propertyChanged_iff hf, Tells]
    constructor
    · rintro ⟨stored', latest', before, after, hg', hentry, hvalue⟩
      rw [hg] at hg'
      cases hg'
      rw [Delta.get?_changes_of_mem stored _ hd hr] at hentry
      exact ⟨before, after, hentry, hvalue⟩
    · rintro ⟨before, after, hrecord, hvalue⟩
      refine ⟨stored, latest, before, after, hg, ?_, hvalue⟩
      rw [Delta.get?_changes_of_mem stored _ hd hr, hrecord]
  · intro key name value old ht ho hs
    obtain ⟨-, last, read, hl, hrereads, hdiffers⟩ := htold ht
    refine ⟨last, hl, ?_⟩
    -- Otherwise the comparison is with this value, which is an equal one.
    by_contra hnot
    obtain ⟨hcarried, hlegible⟩ := not_or.mp hnot
    obtain ⟨kept, hkept⟩ := Option.ne_none_iff_exists'.mp hcarried
    have hlast := Delta.lastValue?_of_last hl hkept
    rw [ho] at hlast
    cases hlast
    have hread := hrereads.eq (not_not.mp hlegible)
    rw [hdiffers old (by rw [hread, hkept])] at hs
    cases hs

end PollRecord

/-- What is reported of a snapshot since it was seeded, in any run, whatever the queries return and
however the rules change, as long as the rules file is no snapshot. -/
theorem Session.tellsSinceLast_history {session : Option Session} {directives : List Directive}
    {w : World ε Files}
    (hp : ∀ r ∈ history env root settings session directives w,
      env.snapshot root settings r.collection ≠ settings.rulesPath)
    {a b c : List (PollRecord ε)} {s r : PollRecord ε}
    (h : history env root settings session directives w = a ++ s :: (b ++ r :: c))
    (hs : s.Seeds env root settings (env.snapshot root settings r.collection))
    (hn : s.before.store (env.snapshot root settings r.collection) = none)
    (hb : ∀ q ∈ b, ¬q.Seeds env root settings (env.snapshot root settings r.collection)) :
    r.TellsSinceLast (PollRecord.received env root settings
      (env.snapshot root settings r.collection) (s :: b)) := by
  have hpolled : ∀ q ∈ a ++ s :: (b ++ r :: c), q.Polled env root settings :=
    fun q hq => polled_history env root settings (h ▸ hq)
  have hends : ∀ q ∈ a ++ s :: (b ++ r :: c), q.Ends env root settings :=
    fun q hq => (hpolled q hq).ends (hp q (h ▸ hq))
  have hchain := chain_history env root settings session directives w
  rw [h] at hchain hp
  have hafter := hchain.split.2
  have hseeded := (hends s (by simp)).remembers_of_seeds hs hn
  have hkept := hafter.init.remembers (fun q hq => hends q (by simp [hq])) hb hseeded
  rw [← PollRecord.received_cons] at hkept
  refine PollRecord.Polled.tellsSinceLast (hpolled r (by simp)) (hp r (by simp)) ?_
  rw [hafter.split.1.store]
  exact hkept

end

/-! ### A due date that comes and goes -/

/-- A rule that waits for a due date. -/
def dateEntry : RuleEntry where
  uid := none
  filterProperties := []
  contentFilter := none
  trigger := .object [("date", .object [("is_not_empty", .bool true)]), ("property", .string "Due")]
  actions := .nothing

/-- The collection that the rule watches. -/
def dueCollection : Collection := ⟨"c1", [dateEntry.toRule 0]⟩

/-- A record with a status, and with a due date or without. -/
def dated (carries : Bool) : Record where
  id := "r-1"
  createdTime := none
  lastEditedTime := none
  properties :=
    (if carries then [("Due", .string "May")] else []) ++ [("Status", .string "Open")]

theorem legible_dated (carries : Bool) : (dated carries).Legible := by
  cases carries with
  | false => exact Record.legible_of_exact (List.pairwise_singleton _ _) ⟨trivial, trivial⟩
  | true =>
    refine Record.legible_of_exact (List.pairwise_pair.mpr ?_) ⟨trivial, trivial, trivial⟩
    decide

/-- A due date that was received, then missing from a record, and then received again is reported as
a change, although it is what it was. -/
theorem phantom_dated :
    Delta.lastValue? [dated true, dated false] "r1" "Due" = some (.string "May") ∧
      (Delta.changes (Snapshot.overlay (Snapshot.overlay [] [dated true]) [dated false])
        [dated true] dueCollection.activeProperties).get? "r1" =
          some (.propertyChanged [("Due", .object [])] [("Due", .string "May")]) :=
  ⟨rfl, rfl⟩

/-- An environment in which only the records that seed a snapshot lack the due date. -/
def dueEnvironment : Environment Nat :=
  { Environment.answering (fun _ => .ok []) [("c-1", [dateEntry])] with
    query := fun _ _ filter => return .ok [dated filter.isSome] }

/-- The session that watches the collection, with the times of its last successes. -/
def dueSession (lastSuccess : Fields Instant) : Session :=
  ⟨[dueCollection], some 0, lastSuccess, default⟩

/-- The first poll, which stores the record without its due date. -/
def dueSeeding : PollRecord Nat :=
  (dueSession []).record dueEnvironment "store" ⟨"rules", 3600, 600⟩ dueCollection
    ⟨0, fun _ => none, []⟩

/-- The second poll, which is given the record with its due date. -/
def duePoll : PollRecord Nat :=
  (dueSession [("c1", default)]).record dueEnvironment "store" ⟨"rules", 3600, 600⟩ dueCollection
    dueSeeding.after

theorem history_due : Session.history dueEnvironment "store" ⟨"rules", 3600, 600⟩
    (some (dueSession [])) [.cycle, .cycle] ⟨0, fun _ => none, []⟩ = [dueSeeding, duePoll] := by
  have hobey : Session.obey (dueEnvironment.surroundings "store" ⟨"rules", 3600, 600⟩)
      (some (dueSession [])) .cycle ⟨0, fun _ => none, []⟩ =
      ((some (dueSession [("c1", default)]), some (.ok ⟨1, 0, 0, 0⟩)), dueSeeding.after) := rfl
  have hsecond : Session.directivePolls dueEnvironment "store" ⟨"rules", 3600, 600⟩
      (some (dueSession [("c1", default)])) .cycle dueSeeding.after = [duePoll] :=
    Session.polls_singleton _ _ _ _ _ _
  rw [Session.history_cons _ _ _ hobey, Session.history, hsecond]
  rfl

theorem sound_dueEnvironment : dueEnvironment.Sound :=
  ⟨fun _ _ => rfl, fun _ _ => rfl, fun _ _ => rfl, fun _ _ => rfl⟩

/-- The due date is reported, for the record that was received before did not carry it. -/
theorem tells_due :
    duePoll.TellsSinceLast [dated false] ∧ duePoll.Tells "r1" "Due" (.string "May") := by
  have hplace : ∀ r : PollRecord Nat, dueEnvironment.snapshot "store" ⟨"rules", 3600, 600⟩
      r.collection ≠ "rules" := fun r => snapshot_ne_rulesPath _ _ _ r.collection (by decide)
  have htells := Session.tellsSinceLast_history _ _ _ (a := []) (b := []) (c := [])
    (fun r _ => hplace r) history_due ⟨rfl, rfl⟩ rfl (by simp)
  have hreceived : PollRecord.received dueEnvironment "store" ⟨"rules", 3600, 600⟩
      (dueEnvironment.snapshot "store" ⟨"rules", 3600, 600⟩ duePoll.collection) [dueSeeding] =
      [dated false] := rfl
  rw [hreceived] at htells
  refine ⟨htells, ?_⟩
  have hpolled : duePoll.Polled dueEnvironment "store" ⟨"rules", 3600, 600⟩ := ⟨_, _, _, rfl⟩
  have hlegible : ∀ record ∈ [dated false], record.Legible := by
    intro record hrecord
    rw [List.mem_singleton.mp hrecord]
    exact legible_dated false
  have hloaded : SnapshotStore.loaded "c1" (duePoll.before.store "store/c1.json") =
      .ok [dated false] := SnapshotStore.loaded_of_legible hlegible "c1"
  obtain ⟨hsucceeds, -⟩ := hpolled.succeeds sound_dueEnvironment (hplace duePoll)
    (fun _ _ => ⟨_, rfl⟩) _ (SnapshotStore.base?_of_loaded hloaded)
  have hends := hpolled.ends (hplace duePoll)
  rcases hends.of_succeeds hsucceeds with ⟨latest, -, -, hnone⟩ |
    ⟨stored, latest, changes, fired, -, hg, hr⟩
  · have hsome : duePoll.before.store "store/c1.json" = none := hnone sound_dueEnvironment
    rw [hsome] at hloaded
    cases hloaded
  · obtain ⟨middle, evaluated, -, -, hq, -, -⟩ := hends.of_comparison hg hr
    have hlatest : latest = [dated true] := by
      rw [fetch_run] at hq
      obtain ⟨hanswer, -⟩ := Prod.mk.inj hq
      exact (Option.some.inj hanswer).symm
    subst hlatest
    refine (htells.exact hg (List.pairwise_singleton _ _) (List.mem_singleton.mpr rfl) rfl
      (legible_dated false) "Due" (.string "May")).mpr ⟨by decide +kernel, rfl, fun old hold => ?_⟩
    cases hold

end RecordWatch
