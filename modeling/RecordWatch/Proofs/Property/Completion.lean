import RecordWatch.Comparable
import RecordWatch.Proofs.Distinct
import RecordWatch.Proofs.Simulation

/-! Completing relations. A relation that was cut short is looked up once, and the ids that come
back follow the ones that it shows, as far as they are new. What the lookup repeats of the relation
makes no difference: a list without repetitions is put together from its beginning and the whole
list, or from its beginning and the rest. -/

namespace RecordWatch

/-- The item of a relation points to the record of this id. -/
def Json.PointsTo (item : Json) (id : String) : Prop :=
  ∃ relation, item.field? "relation" = some relation ∧ relation.field? "id" = some (.string id)

/-- What a looked-up list adds to the ids that a relation shows: the ids that it does not show, each
once, in the order in which the list first has them. -/
structure Adds (shown fetched added : List String) : Prop where
  mem : ∀ id, id ∈ added ↔ id ∈ fetched ∧ id ∉ shown
  nodup : added.Nodup
  order : added.Pairwise fun a b => fetched.idxOf a < fetched.idxOf b

theorem adds_distinct (shown fetched : List String) :
    Adds shown fetched (distinct (fetched.filter (· ∉ shown))) where
  mem id := by simp [mem_distinct]
  nodup := nodup_distinct _
  order := pairwise_idxOf_distinct _ _

namespace Comparable

theorem relatedId_eq_ok_iff {item : Json} {id : String} :
    relatedId item = .ok id ↔ item.PointsTo id := by
  rw [relatedId]
  constructor
  · intro h
    split at h
    · next found hfound =>
      cases h
      obtain ⟨relation, hrelation, h⟩ := Option.bind_eq_some_iff.mp hfound
      obtain ⟨value, hvalue, hid⟩ := Option.bind_eq_some_iff.mp h
      cases value <;> simp [Json.string?] at hid
      exact ⟨relation, hrelation, hid ▸ hvalue⟩
    · cases h
  · rintro ⟨relation, hrelation, hid⟩
    rw [hrelation, Option.bind_some, hid]
    rfl

theorem relatedId_of_pointless {item : Json} (h : ∀ id, ¬item.PointsTo id) :
    relatedId item = .error (.itemWithoutId item) := by
  cases hid : relatedId item with
  | ok id => exact absurd (relatedId_eq_ok_iff.mp hid) (h id)
  | error error =>
    rw [relatedId] at hid
    split at hid <;> cases hid
    rfl

theorem mapM_relatedId {items : List Json} {fetched : List String}
    (h : List.Forall₂ Json.PointsTo items fetched) : items.mapM relatedId = .ok fetched := by
  induction h with
  | nil => rfl
  | cons hitem _ ih =>
    rw [List.mapM_cons, relatedId_eq_ok_iff.mpr hitem, ih]
    rfl

theorem mapM_relatedId_pointless {items : List Json}
    (h : ∃ item ∈ items, ∀ id, ¬item.PointsTo id) :
    ∃ item ∈ items, (∀ id, ¬item.PointsTo id) ∧
      items.mapM relatedId = .error (.itemWithoutId item) := by
  induction items with
  | nil => simp at h
  | cons first rest ih =>
    by_cases hfirst : ∀ id, ¬first.PointsTo id
    · refine ⟨first, List.mem_cons_self, hfirst, ?_⟩
      rw [List.mapM_cons, relatedId_of_pointless hfirst]
      rfl
    · obtain ⟨id, hid⟩ := not_forall_not.mp hfirst
      have hrest : ∃ item ∈ rest, ∀ id, ¬item.PointsTo id := by
        obtain ⟨item, hmem, hitem⟩ := h
        rcases List.mem_cons.mp hmem with rfl | hmem
        · exact absurd hitem hfirst
        · exact ⟨item, hmem, hitem⟩
      obtain ⟨item, hmem, hitem, herror⟩ := ih hrest
      refine ⟨item, List.mem_cons_of_mem first hmem, hitem, ?_⟩
      rw [List.mapM_cons, relatedId_eq_ok_iff.mpr hid, herror]
      rfl

theorem complete_of_pointsTo {items : List Json} {fetched : List String}
    (h : List.Forall₂ Json.PointsTo items fetched) (shown : List String) :
    complete shown items = .ok (appendNew shown fetched) := by
  rw [complete, mapM_relatedId h]
  rfl

theorem complete_of_pointless {items : List Json} (h : ∃ item ∈ items, ∀ id, ¬item.PointsTo id)
    (shown : List String) :
    ∃ item ∈ items, (∀ id, ¬item.PointsTo id) ∧
      complete shown items = .error (.itemWithoutId item) := by
  obtain ⟨item, hmem, hitem, herror⟩ := mapM_relatedId_pointless h
  refine ⟨item, hmem, hitem, ?_⟩
  rw [complete, herror]
  rfl

/-- What comes of a relation that was cut short when its lookup is answered. -/
def ofLookup (shown : List String) :
    Except ApiError (List Json) → Except CompletionError Comparable
  | .error error => .error (.lookup error)
  | .ok items => (complete shown items).map .list

end Comparable

theorem Property.comparable_cut {m : Type → Type} [Monad m] [LawfulMonad m]
    (lookup : String → m (Except ApiError (List Json))) (id : String) (shown : List String) :
    Property.comparable lookup ⟨some id, .relation shown true⟩ =
      Comparable.ofLookup shown <$> lookup id := by
  rw [Property.comparable, ← bind_pure_comp]
  dsimp only
  congr 1
  funext answer
  cases answer <;> rfl

/-- What a relation that shows these ids is completed to. If each item that was looked up points to
a record, the list shows what it showed and then what the items add; so a list without repetitions
comes out whole, whether the items are all of it or what was missing. A lookup that failed and an
item that points nowhere leave no list. -/
structure Completes (shown : List String) (answer : Except ApiError (List Json))
    (result : Except CompletionError Comparable) : Prop where
  joined : ∀ items fetched, answer = .ok items → List.Forall₂ Json.PointsTo items fetched →
    ∃ added, Adds shown fetched added ∧ result = .ok (.list (shown ++ added))
  whole : ∀ items fetched full n, answer = .ok items → List.Forall₂ Json.PointsTo items fetched →
    full.Nodup → shown = full.take n → fetched = full ∨ fetched = full.drop n →
      result = .ok (.list full)
  pointless : ∀ items, answer = .ok items → (∃ item ∈ items, ∀ id, ¬item.PointsTo id) →
    ∃ item ∈ items, (∀ id, ¬item.PointsTo id) ∧ result = .error (.itemWithoutId item)
  failed : ∀ error, answer = .error error → result = .error (.lookup error)

theorem completes_ofLookup (shown : List String) (answer : Except ApiError (List Json)) :
    Completes shown answer (Comparable.ofLookup shown answer) where
  joined := by
    rintro items fetched rfl hfetched
    refine ⟨_, adds_distinct shown fetched, ?_⟩
    rw [Comparable.ofLookup, Comparable.complete_of_pointsTo hfetched, appendNew_eq]
    rfl
  whole := by
    rintro items fetched full n rfl hfetched hfull rfl hlist
    have hparts : (full.take n ++ full.drop n).Nodup := by rwa [List.take_append_drop]
    obtain ⟨hall, hrest⟩ := appendNew_of_nodup hparts
    rw [List.take_append_drop] at hall hrest
    rw [Comparable.ofLookup, Comparable.complete_of_pointsTo hfetched]
    rcases hlist with rfl | rfl
    · rw [hall]
      rfl
    · rw [hrest]
      rfl
  pointless := by
    rintro items rfl hpointless
    obtain ⟨item, hmem, hitem, herror⟩ := Comparable.complete_of_pointless hpointless shown
    refine ⟨item, hmem, hitem, ?_⟩
    rw [Comparable.ofLookup, herror]
    rfl
  failed := by
    rintro error rfl
    rfl

/-- A record store that only answers lookups, and notes them in order. -/
def noting (answer : String → String → Except ApiError (List Json)) (record property : String) :
    StateM (List (String × String)) (Except ApiError (List Json)) := do
  modify (· ++ [(record, property)])
  return answer record property

/-- A relation that was cut short is looked up once, by its id, and completed by the answer; without
an id it is an error. One that was not cut short is not looked up. -/
theorem completes_relations (answer : String → String → Except ApiError (List Json))
    (record : String) (calls : List (String × String)) (shown : List String) :
    (∀ id, ∃ result,
      Property.comparable (noting answer record) ⟨some id, .relation shown true⟩ calls =
          (result, calls ++ [(record, id)]) ∧
        Completes shown (answer record id) result) ∧
    Property.comparable (noting answer record) ⟨none, .relation shown true⟩ calls =
      (.error .missingPropertyId, calls) ∧
    ∀ id, Property.comparable (noting answer record) ⟨id, .relation shown false⟩ calls =
      (.ok (.list shown), calls) := by
  refine ⟨fun id => ⟨_, ?_, completes_ofLookup shown (answer record id)⟩, rfl, fun _ => rfl⟩
  rw [Property.comparable_cut]
  rfl

/-- An item that points to a record. -/
def pointer (id : String) : Json :=
  .object [("object", .string "property_item"), ("relation", .object [("id", .string id)])]

theorem pointsTo_pointer (id : String) : (pointer id).PointsTo id := ⟨_, rfl, rfl⟩

/-- The lookup gives the two jobs that are shown once more, and the third. -/
theorem completes_relations_jobs :
    List.Forall₂ Json.PointsTo (["j-1", "j-2", "j-3"].map pointer) ["j-1", "j-2", "j-3"] ∧
      Property.comparable (noting (fun _ _ => .ok (["j-1", "j-2", "j-3"].map pointer)) "r-1")
          ⟨some "jo", .relation ["j-1", "j-2"] true⟩ [] =
        (.ok (.list ["j-1", "j-2", "j-3"]), [("r-1", "jo")]) := by
  have hpoints : List.Forall₂ Json.PointsTo (["j-1", "j-2", "j-3"].map pointer)
      ["j-1", "j-2", "j-3"] :=
    .cons (pointsTo_pointer _) (.cons (pointsTo_pointer _) (.cons (pointsTo_pointer _) .nil))
  refine ⟨hpoints, ?_⟩
  obtain ⟨result, hrun, hcompletes⟩ :=
    (completes_relations (fun _ _ => .ok (["j-1", "j-2", "j-3"].map pointer)) "r-1" []
      ["j-1", "j-2"]).1 "jo"
  rw [hrun, hcompletes.whole _ _ _ 2 rfl hpoints (by decide) rfl (.inl rfl)]
  rfl

end RecordWatch
