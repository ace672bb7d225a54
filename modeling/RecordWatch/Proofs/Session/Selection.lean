import RecordWatch.Proofs.Json.Bare
import RecordWatch.Proofs.Session.Failure
import RecordWatch.Proofs.Session.Refinement

/-! What queries select. A poll asks one query at most. However the record store reads filters, as
long as it reads equal ones alike and a list of alternatives as what any of them matches, the query
selects the records that some rule of the collection needs, and no others. -/

namespace RecordWatch

/-- A reading of filters: which records they match. Equal filters match the same records, and
alternatives what any of them matches. -/
structure FilterReading where
  Matches : Json → Record → Prop
  same {filter other : Json} (h : filter.same other = true) (record : Record) :
    Matches filter record ↔ Matches other record
  any (filters : List Json) (record : Record) :
    Matches (.object [("or", .array filters)]) record ↔ ∃ filter ∈ filters, Matches filter record

/-- A query without a filter selects every record. -/
def FilterReading.Selects (reading : FilterReading) : Option Json → Record → Prop
  | none, _ => True
  | some filter, record => reading.Matches filter record

namespace Collection

variable {lookback : Option Json} (reading : FilterReading) (record : Record)

/-- The filters of rules match what some rule needs. -/
theorem matches_filters? {rules : List Rule} {all : List Json}
    (h : filters? lookback rules = some all) :
    (∃ filter ∈ all, reading.Matches filter record) ↔
      ∃ rule ∈ rules, reading.Selects (rule.effectiveFilter? lookback) record := by
  have hcombines := combines_filters? h
  constructor
  · rintro ⟨filter, hf, hmatches⟩
    obtain ⟨rule, hr, heffective⟩ := (hcombines.needed hf).resolve_left List.not_mem_nil
    refine ⟨rule, hr, ?_⟩
    rw [heffective]
    exact hmatches
  · rintro ⟨rule, hr, hselects⟩
    obtain ⟨filter, heffective, other, ho, hsame⟩ := hcombines.covered hr
    rw [heffective] at hselects
    exact ⟨other, ho, (reading.same hsame record).mp hselects⟩

theorem selects_anyOf {all : List Json} (h : all ≠ []) :
    reading.Selects (anyOf all) record ↔ ∃ filter ∈ all, reading.Matches filter record := by
  cases all with
  | nil => exact absurd rfl h
  | cons first rest =>
    cases rest with
    | nil => simp [anyOf, FilterReading.Selects]
    | cons second rest => exact reading.any _ record

/-- The filter of a collection selects what some rule needs. -/
theorem selects_filter? {collection : Collection} (hr : collection.rules ≠ []) :
    reading.Selects (collection.filter? lookback) record ↔
      ∃ rule ∈ collection.rules, reading.Selects (rule.effectiveFilter? lookback) record := by
  rw [filter?, if_neg (by rwa [List.isEmpty_iff])]
  cases hall : filters? lookback collection.rules with
  | none =>
    obtain ⟨rule, hrule, hnone⟩ := filters?_eq_none_iff.mp hall
    refine ⟨fun _ => ⟨rule, hrule, ?_⟩, fun _ => trivial⟩
    rw [hnone]
    trivial
  | some all =>
    have hne : all ≠ [] := by
      obtain ⟨rule, hrule⟩ := List.exists_mem_of_ne_nil _ hr
      obtain ⟨-, -, other, ho, -⟩ := (combines_filters? hall).covered hrule
      exact List.ne_nil_of_mem ho
    rw [Option.bind_some, selects_anyOf reading record hne, matches_filters? reading record hall]

end Collection

/-! ### The query of a poll -/

namespace Session

section

variable {ε : Type}

/-- The filters of the queries among some calls. -/
def asked (made : List Call) : List (Option Json) :=
  made.filterMap fun
    | .query _ _ filter => some filter
    | _ => none

theorem asked_of_asks {made : List Call} (h : Asks made []) : asked made = [] := by
  refine List.filterMap_eq_nil_iff.mpr fun call hc => ?_
  cases call with
  | query id properties filter => exact absurd (h id properties filter hc) List.not_mem_nil
  | items | update | delivery => rfl

/-- From one world to the other, these are the filters of the queries. -/
def Asked (w w' : World ε Files) (filters : List (Option Json)) : Prop :=
  ∃ made, w'.calls = w.calls ++ made ∧ asked made = filters

theorem Asked.refl (w : World ε Files) : Asked w w [] := ⟨[], (List.append_nil _).symm, rfl⟩

theorem Asked.trans {w w' w'' : World ε Files} {filters more : List (Option Json)}
    (h : Asked w w' filters) (h' : Asked w' w'' more) : Asked w w'' (filters ++ more) := by
  obtain ⟨made, hmade, rfl⟩ := h
  obtain ⟨made', hmade', rfl⟩ := h'
  exact ⟨made ++ made', by rw [hmade', hmade, List.append_assoc], List.filterMap_append⟩

theorem asked_of_asking {α : Type} {w : World ε Files} {p : StateM (World ε Files) α}
    (h : (asking [] w).rel p p) : Asked w (p w).2 [] := by
  obtain ⟨made, hmade, hasks⟩ :=
    Relates.keeps h ⟨[], (List.append_nil _).symm, fun _ _ _ hm => by cases hm⟩
  exact ⟨made, hmade, asked_of_asks hasks⟩

variable (env : Environment ε) (root : String) (settings : Settings)

/-- A record store that is never queried, with the lookups of the environment. -/
def unqueried : Source (StateM (World ε Files)) :=
  { (env.surroundings root settings).source with query := fun _ _ _ => return .ok [] }

theorem alike_unqueried (collection : Collection) (w : World ε Files) :
    Surroundings.Alike (asking [] w)
      { env.surroundings root settings with source := unqueried env root settings }
      { env.surroundings root settings with source := unqueried env root settings } collection :=
  asking_around env root settings rfl fun _ => (asking [] w).pure _

theorem stored_asked (collection : Collection) (w : World ε Files) :
    Asked w (((env.surroundings root settings).stored collection).run w).2 [] :=
  asked_of_asking ((alike_unqueried env root settings collection w).stored
    (asking_store env root settings [] collection.id w))

theorem evaluate_asked (collection : Collection) (stored latest : List Record)
    (w : World ε Files) :
    Asked w ((env.surroundings root settings).evaluate collection stored latest w).2 [] :=
  asked_of_asking ((alike_unqueried env root settings collection w).evaluate stored latest)

theorem merge_asked (collection : Collection) (latest : List Record) (w : World ε Files) :
    Asked w (((env.surroundings root settings).merge collection latest).run w).2 [] :=
  asked_of_asking (Surroundings.Alike.merge (asking_store env root settings [] collection.id w)
    latest)

variable {env root settings}

theorem bind_asked {α β γ : Type} {p : ExceptT γ (StateM (World ε Files)) α}
    {f : α → ExceptT γ (StateM (World ε Files)) β} {w : World ε Files}
    {filters : List (Option Json)} (h : Asked w (p.run w).2 filters)
    (hf : ∀ a w', Asked w' ((f a).run w').2 []) : Asked w ((p >>= f).run w).2 filters := by
  cases hp : p.run w with
  | mk result w' =>
    rw [hp] at h
    cases result with
    | error error =>
      rw [error_run hp]
      exact h
    | ok a =>
      rw [ok_run hp, ← List.append_nil filters]
      exact h.trans (hf a w')

variable (env root settings) in
theorem fetch_asked (collection : Collection) (lookback : Option Json) (w : World ε Files) :
    Asked w ((env.surroundings root settings).fetch collection lookback w).2
      [collection.filter? lookback] := by
  rw [fetch_run]
  exact ⟨_, rfl, rfl⟩

/-- The filters of the queries in a poll that finds some stored records. There is one query, unless
the snapshot cannot be used. -/
def filters (session : Session) (settings : Settings) (collection : Collection) :
    Except SessionError Stored → List (Option Json)
  | .ok .missing => [collection.filter? none]
  | .ok (.records _) => [collection.filter? (some (session.lookback settings collection.id))]
  | .ok .unusable | .error _ => []

variable (env root settings) in
theorem poll_asked (session : Session) (collection : Collection) (w : World ε Files) :
    Asked w ((session.poll (env.surroundings root settings) collection).run w).2
      (session.filters settings collection
        (((env.surroundings root settings).stored collection).run w).1) := by
  have hstored := stored_asked env root settings collection w
  rw [poll]
  cases hs : ((env.surroundings root settings).stored collection).run w with
  | mk result found =>
    rw [hs] at hstored
    cases result with
    | error error =>
      rw [error_run hs]
      exact hstored
    | ok stored =>
      rw [ok_run hs]
      refine hstored.trans ?_
      cases stored with
      | unusable => exact .refl found
      | missing =>
        refine bind_asked (fetch_asked env root settings collection none found) fun answer w' => ?_
        cases answer with
        | none => exact .refl w'
        | some latest =>
          exact bind_asked (merge_asked env root settings collection latest w') fun _ => .refl
      | records stored =>
        refine bind_asked (fetch_asked env root settings collection _ found) fun answer w' => ?_
        cases answer with
        | none => exact .refl w'
        | some latest =>
          refine bind_asked (evaluate_asked env root settings collection stored latest w')
            fun _ w' => ?_
          exact bind_asked (merge_asked env root settings collection latest w') fun _ => .refl

variable (env root settings) in
/-- A poll of a collection with rules asks one query, unless the snapshot cannot be used, and it
selects a record if and only if some rule needs it: because of its own filter, or of the lookback if
it has none and the collection has a snapshot, or of nothing at all. -/
theorem poll_selects (reading : FilterReading) (session : Session) {collection : Collection}
    (hr : collection.rules ≠ []) (w : World ε Files) :
    (∃ filter, Asked w ((session.poll (env.surroundings root settings) collection).run w).2
        [filter] ∧
      ∀ record, reading.Selects filter record ↔
        ∃ rule ∈ collection.rules, reading.Selects (rule.effectiveFilter?
          (if ((env.store root settings).contains collection.id w).1 then
            some (session.lookback settings collection.id) else none)) record) ∨
    Asked w ((session.poll (env.surroundings root settings) collection).run w).2 [] ∧
      ∀ stored, (((env.surroundings root settings).stored collection).run w).1 = .ok stored →
        stored = .unusable := by
  have hasked := poll_asked env root settings session collection w
  have hcases := stored_cases env root settings collection w
  generalize ((env.surroundings root settings).stored collection).run w = found at hasked hcases ⊢
  cases hcases with
  | unseen hc =>
    rw [hc]
    exact .inl ⟨_, hasked, fun record => Collection.selects_filter? reading record hr⟩
  | loaded hc _ =>
    rw [hc]
    exact .inl ⟨_, hasked, fun record => Collection.selects_filter? reading record hr⟩
  | unread | aside => exact .inr ⟨hasked, fun stored hs => (Except.ok.inj hs).symm⟩
  | failed => exact .inr ⟨hasked, fun stored hs => by cases hs⟩

end

/-! ### A reading -/

/-- A record is matched by its edits, by the choice of a property, and by alternatives. -/
inductive Picks (record : Record) : Json → Prop where
  | edited {since edited : String} (he : record.lastEditedTime = some edited)
    (hle : since ≤ edited) :
    Picks record (.object [("last_edited_time", .object [("on_or_after", .string since)]),
      ("timestamp", .string "last_edited_time")])
  | select {property name : String} (h : record.properties.get? property =
      some (.object [("select", .object [("name", .string name)])])) :
    Picks record (.object [("property", .string property),
      ("select", .object [("equals", .string name)])])
  | any {filters : List Json} {filter : Json} (hf : filter ∈ filters) (h : Picks record filter) :
    Picks record (.object [("or", .array filters)])

/-- Filters are read without their numbers, of which they have none. -/
def picking : FilterReading where
  Matches filter record := Picks record filter.bare
  same h record := by rw [Json.bare_of_same h]
  any filters record := by
    rw [Json.bare, Json.bareFields, Json.bareFields, Json.bare, Json.bareItems_eq_map]
    constructor
    · generalize hany : Json.object [("or", .array (filters.map Json.bare))] = whole
      intro h
      cases h with
      | edited | select => simp at hany
      | any hf h =>
        simp only [Json.object.injEq, List.cons.injEq, Prod.mk.injEq, Json.array.injEq, true_and,
          and_true] at hany
        rw [← hany] at hf
        obtain ⟨filter, hfilter, rfl⟩ := List.mem_map.mp hf
        exact ⟨filter, hfilter, h⟩
    · rintro ⟨filter, hf, h⟩
      exact .any (List.mem_map_of_mem hf) h

/-- The filter for pages that are queued. -/
def queued : Json :=
  .object [("property", .string "Status"), ("select", .object [("equals", .string "Queued")])]

/-- A collection with a rule for queued pages and one for all that are new. -/
def queueCollection : Collection :=
  ⟨"c1", [⟨"r-1", .created, ⟨[], [], []⟩, [], some queued⟩,
    ⟨"r-2", .created, ⟨[], [], []⟩, [], none⟩]⟩

/-- A store with an empty snapshot of this collection. -/
def queueWorld : World Nat Files :=
  ⟨0, Function.update (fun _ => none) "store/c1.json" (some (SnapshotStore.bytesOf [])), []⟩

/-- The session that begins with this collection. -/
def queueSession : Session := ⟨[queueCollection], none, [], default⟩

/-- The query selects the queued pages and those that were edited since the lookback. -/
theorem poll_selects_queued :
    ∃ filter, Asked queueWorld ((queueSession.poll ((Environment.answering (fun _ => .ok [])
        []).surroundings "store" ⟨"rules", 3600, 600⟩) queueCollection).run queueWorld).2 [filter] ∧
      ∀ record, picking.Selects filter record ↔ picking.Matches queued record ∨
        picking.Matches (Lookback.since (Lookback.before default 3600)) record := by
  have hpath : (Environment.answering (fun _ => .ok []) []).snapshot "store" ⟨"rules", 3600, 600⟩
      queueCollection = "store/c1.json" := by decide
  have hloaded : SnapshotStore.loaded "c1" (queueWorld.store "store/c1.json") = .ok [] := by
    have hheld : queueWorld.store "store/c1.json" = some (SnapshotStore.bytesOf []) := by
      simp [queueWorld]
    rw [hheld]
    exact SnapshotStore.loaded_of_legible (fun record hr => by cases hr) "c1"
  rcases poll_selects (Environment.answering (fun _ => .ok []) []) "store" ⟨"rules", 3600, 600⟩
    picking queueSession (show queueCollection.rules ≠ [] from List.cons_ne_nil _ _) queueWorld with
    ⟨filter, hasked, hselects⟩ | ⟨-, hunusable⟩
  · refine ⟨filter, hasked, fun record => ?_⟩
    have hcontains : (((Environment.answering (fun _ => .ok []) []).store "store"
        ⟨"rules", 3600, 600⟩).contains queueCollection.id queueWorld).1 = true := rfl
    rw [hselects, hcontains]
    simp [queueCollection, queueSession, Rule.effectiveFilter?, FilterReading.Selects, lookback]
  · have hstored := Machine.stored_run_records (w := queueWorld) (Environment.sound_answering _ _)
      (by rw [hpath]; decide) (by rw [hpath]; exact hloaded)
    cases hunusable _ (congrArg Prod.fst hstored)

end Session

end RecordWatch
