import Mathlib.Data.List.Forall2
import RecordWatch.Json.Draft
import RecordWatch.Proofs.Fields

/-! Drafts of values. A value that was read has the names of its objects in ascending order, each
once, and such a value is what its draft is read as. A list is read item by item, and so is a list
of written values. -/

namespace RecordWatch

/-- A list is read if every item is, in place. -/
theorem mapM_eq_some_iff {α β : Type} {read : α → Option β} {items : List α} {values : List β} :
    items.mapM read = some values ↔
      List.Forall₂ (fun item value => read item = some value) items values := by
  induction items generalizing values with
  | nil =>
    rw [List.mapM_nil, List.forall₂_nil_left_iff]
    exact ⟨fun h => (Option.some.inj h).symm, fun h => h ▸ rfl⟩
  | cons item items ih =>
    rw [List.mapM_cons, List.forall₂_cons_left_iff]
    constructor
    · intro h
      obtain ⟨value, hvalue, h⟩ := Option.bind_eq_some_iff.mp h
      obtain ⟨rest, hrest, h⟩ := Option.bind_eq_some_iff.mp h
      cases h
      exact ⟨value, rest, hvalue, ih.mp hrest, rfl⟩
    · rintro ⟨value, rest, hvalue, hrest, rfl⟩
      rw [hvalue, ih.mpr hrest]
      rfl

theorem isSome_mapM {α β : Type} {read : α → Option β} {items : List α} :
    (items.mapM read).isSome ↔ ∀ item ∈ items, (read item).isSome := by
  induction items with
  | nil => simp
  | cons item items ih =>
    rw [List.forall_mem_cons, ← ih, List.mapM_cons]
    cases read item with
    | none => simp
    | some value => cases items.mapM read <;> simp

theorem exists_of_mem_mapM {α β : Type} {read : α → Option β} {items : List α} {values : List β}
    (h : items.mapM read = some values) {value : β} (hv : value ∈ values) :
    ∃ item ∈ items, read item = some value := by
  have hread := mapM_eq_some_iff.mp h
  clear h
  induction hread with
  | nil => cases hv
  | @cons item first items rest hfirst _ ih =>
    rcases List.mem_cons.mp hv with rfl | hv
    · exact ⟨item, List.mem_cons_self, hfirst⟩
    · obtain ⟨other, ho, hother⟩ := ih hv
      exact ⟨other, List.mem_cons_of_mem _ ho, hother⟩

namespace Json

mutual

/-- The names of every object in the value ascend strictly. -/
def Ordered : Json → Prop
  | .null => True
  | .bool _ => True
  | .number _ => True
  | .string _ => True
  | .array items => OrderedItems items
  | .object fields => Fields.Sorted fields ∧ OrderedFields fields

/-- Every item is ordered. -/
def OrderedItems : List Json → Prop
  | [] => True
  | item :: rest => Ordered item ∧ OrderedItems rest

/-- The value of every field is ordered. -/
def OrderedFields : List (String × Json) → Prop
  | [] => True
  | (_, value) :: rest => Ordered value ∧ OrderedFields rest

end

theorem orderedFields_iff {fields : Fields Json} :
    OrderedFields fields ↔ ∀ field ∈ fields, field.2.Ordered := by
  induction fields with
  | nil => exact iff_of_true trivial (by simp)
  | cons field rest ih =>
    obtain ⟨name, value⟩ := field
    rw [OrderedFields, List.forall_mem_cons, ih]

theorem OrderedFields.ofList {fields : List (String × Json)} (h : OrderedFields fields) :
    OrderedFields (Fields.ofList fields) :=
  orderedFields_iff.mpr fun field hf => orderedFields_iff.mp h field (Fields.mem_ofList hf)

end Json

namespace Draft

theorem ofItems_eq_map (items : List Json) : ofItems items = items.map ofJson := by
  induction items with
  | nil => rfl
  | cons item rest ih => rw [ofItems, ih, List.map_cons]

theorem ofFields_eq_map (fields : List (String × Json)) :
    ofFields fields = fields.map fun field => (field.1, ofJson field.2) := by
  induction fields with
  | nil => rfl
  | cons field rest ih =>
    obtain ⟨name, value⟩ := field
    rw [ofFields, ih, List.map_cons]

/-! ### Values of drafts -/

mutual

/-- The value of a draft is ordered. -/
theorem ordered_of_toJson? : {draft : Draft} → {value : Json} → draft.toJson? = some value →
    value.Ordered
  | .null, _, h => by cases h; exact trivial
  | .bool _, _, h => by cases h; exact trivial
  | .number _, _, h => by cases h; exact trivial
  | .string _, _, h => by cases h; exact trivial
  | .array items, _, h => by
    obtain ⟨values, hvalues, rfl⟩ := Option.map_eq_some_iff.mp h
    exact ordered_of_toItems? hvalues
  | .object fields, _, h => by
    obtain ⟨values, hvalues, rfl⟩ := Option.map_eq_some_iff.mp h
    exact ⟨Fields.sorted_ofList values, (ordered_of_toFields? hvalues).ofList⟩
  | .unreadable, _, h => by cases h

theorem ordered_of_toItems? : {items : List Draft} → {values : List Json} →
    toItems? items = some values → Json.OrderedItems values
  | [], _, h => by cases h; exact trivial
  | item :: rest, _, h => by
    obtain ⟨value, hvalue, h⟩ := Option.bind_eq_some_iff.mp h
    obtain ⟨values, hvalues, h⟩ := Option.bind_eq_some_iff.mp h
    cases h
    exact ⟨ordered_of_toJson? hvalue, ordered_of_toItems? hvalues⟩

theorem ordered_of_toFields? : {fields : List (String × Draft)} →
    {values : List (String × Json)} → toFields? fields = some values → Json.OrderedFields values
  | [], _, h => by cases h; exact trivial
  | (name, item) :: rest, _, h => by
    obtain ⟨value, hvalue, h⟩ := Option.bind_eq_some_iff.mp h
    obtain ⟨values, hvalues, h⟩ := Option.bind_eq_some_iff.mp h
    cases h
    exact ⟨ordered_of_toJson? hvalue, ordered_of_toFields? hvalues⟩

end

mutual

/-- An ordered value is the value of its draft. -/
theorem toJson?_ofJson : {value : Json} → value.Ordered → (ofJson value).toJson? = some value
  | .null, _ => rfl
  | .bool _, _ => rfl
  | .number _, _ => rfl
  | .string _, _ => rfl
  | .array items, h => by
    rw [ofJson, toJson?, toItems?_ofItems h, Option.map_some]
  | .object fields, h => by
    obtain ⟨hs, hf⟩ := h
    rw [ofJson, toJson?, toFields?_ofFields hf, Option.map_some, Fields.ofList_of_sorted hs]

theorem toItems?_ofItems : {items : List Json} → Json.OrderedItems items →
    toItems? (ofItems items) = some items
  | [], _ => rfl
  | item :: rest, ⟨hi, hr⟩ => by
    rw [ofItems, toItems?, toJson?_ofJson hi, toItems?_ofItems hr]
    rfl

theorem toFields?_ofFields : {fields : List (String × Json)} → Json.OrderedFields fields →
    toFields? (ofFields fields) = some fields
  | [], _ => rfl
  | (name, value) :: rest, ⟨hv, hr⟩ => by
    rw [ofFields, toFields?, toJson?_ofJson hv, toFields?_ofFields hr]
    rfl

end

/-! ### Optional values -/

theorem optional?_some {α : Type} (read : Draft → Option α) {draft : Draft} (h : draft ≠ .null) :
    optional? read (some draft) = (read draft).map some := by
  cases draft with
  | null => exact absurd rfl h
  | _ => rfl

theorem toJson?_eq_null {draft : Draft} : draft.toJson? = some .null ↔ draft = .null := by
  cases draft <;> simp [toJson?]

/-- An optional value that was read is not null, and it is ordered. -/
theorem ordered_of_optional? {draft : Option Draft} {value : Json}
    (h : optional? toJson? draft = some (some value)) : value ≠ .null ∧ value.Ordered := by
  cases draft with
  | none => cases h
  | some draft =>
    by_cases hn : draft = .null
    · subst hn
      cases h
    · rw [optional?_some toJson? hn] at h
      obtain ⟨read, hread, heq⟩ := Option.map_eq_some_iff.mp h
      cases heq
      refine ⟨?_, ordered_of_toJson? hread⟩
      rintro rfl
      exact hn (toJson?_eq_null.mp hread)

/-- Such a value is read as it was. -/
theorem optional?_written {value : Option Json}
    (h : ∀ v, value = some v → v ≠ .null ∧ v.Ordered) :
    optional? toJson? (value.map ofJson) = some value := by
  cases value with
  | none => rfl
  | some v =>
    obtain ⟨hnull, hordered⟩ := h v rfl
    have hdraft : ofJson v ≠ .null := by
      intro heq
      have hread := toJson?_ofJson hordered
      rw [heq] at hread
      exact hnull (Option.some.inj hread).symm
    rw [Option.map_some, optional?_some toJson? hdraft, toJson?_ofJson hordered, Option.map_some]

theorem mapM_toJson? (fields : List (String × Draft)) :
    (fields.mapM fun (name, draft) => do return (name, ← toJson? draft)) = toFields? fields := by
  induction fields with
  | nil => rfl
  | cons field rest ih =>
    obtain ⟨name, draft⟩ := field
    rw [List.mapM_cons, ih, toFields?]
    cases h : toJson? draft <;> simp [h]

/-- A map of values that was read is ordered. -/
theorem ordered_of_map? {draft : Draft} {fields : Fields Json}
    (h : draft.map? toJson? = some fields) : (Json.object fields).Ordered := by
  cases draft with
  | object members =>
    rw [map?, mapM_toJson?] at h
    obtain ⟨values, hvalues, h⟩ := Option.bind_eq_some_iff.mp h
    cases h
    exact ⟨Fields.sorted_ofList values, (ordered_of_toFields? hvalues).ofList⟩
  | _ => cases h

/-! ### Written values -/

section

variable {α : Type} {read : Draft → Option α} {write : α → Json}

/-- Written values are read together if each of them is. -/
theorem list?_written {values : List α}
    (h : ∀ value ∈ values, read (ofJson (write value)) = some value) :
    (ofJson (.array (values.map write))).list? read = some values := by
  have hitems : (ofItems (values.map write)).mapM read = some values := by
    induction values with
    | nil => rfl
    | cons value values ih =>
      rw [List.map_cons, ofItems, List.mapM_cons, h value List.mem_cons_self,
        ih fun other ho => h other (List.mem_cons_of_mem _ ho)]
      rfl
  exact hitems

theorem list?_strings (texts : List String) :
    (ofJson (Json.strings texts)).list? string? = some texts :=
  list?_written fun _ _ => rfl

/-- Written fields are read as a map if each value is and the names ascend. -/
theorem map?_written {fields : Fields α} (hs : fields.Sorted)
    (h : ∀ field ∈ fields, read (ofJson (write field.2)) = some field.2) :
    (ofJson (.object (fields.mapValues write))).map? read = some fields := by
  have hfields : (ofFields (fields.mapValues write)).mapM
      (fun (name, draft) => do return (name, ← read draft)) = some fields := by
    clear hs
    induction fields with
    | nil => rfl
    | cons field fields ih =>
      obtain ⟨name, value⟩ := field
      have hvalue := h _ List.mem_cons_self
      rw [Fields.mapValues, List.map_cons, ofFields, List.mapM_cons]
      rw [Fields.mapValues] at ih
      simp only [hvalue, ih fun other ho => h other (List.mem_cons_of_mem _ ho)]
      rfl
  rw [ofJson, map?, hfields, Option.bind_eq_bind, Option.bind_some, Fields.ofList_of_sorted hs]
  rfl

end

end Draft

end RecordWatch
