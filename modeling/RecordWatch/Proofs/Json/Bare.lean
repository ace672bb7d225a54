import RecordWatch.Proofs.Json.Drafts
import RecordWatch.Proofs.Json.Parsing

/-! Values without their numbers. Equal values may differ in their numbers, for two doubles may be
one number, and a value may be read from its text with other numbers; without them they are the
same. -/

namespace RecordWatch

/-- The text of a number is read as a number, if it can be read. -/
theorem Number.exists_of_redraft {n : Number} {value : Json} (h : n.redraft.toJson? = some value) :
    ∃ m, value = .number m := by
  have hword : ∀ {word : List Char} {c : Char}, c ∈ word →
      (c.isDigit || ['-', '+', '.', 'e'].contains c) = false → n.text.toList ≠ word := by
    intro word c hc hother heq
    have hchar := n.isNumeral_text.char (heq ▸ hc)
    rw [← List.contains_iff_mem, ← Bool.or_eq_true, hother] at hchar
    cases hchar
  rw [redraft, Draft.ofWord?, if_neg (hword (c := 'n') (by decide) rfl),
    if_neg (hword (c := 't') (by decide) rfl), if_neg (hword (c := 'f') (by decide) rfl)] at h
  cases hl : Literal.ofChars? n.text.toList with
  | none =>
    rw [hl] at h
    cases h
  | some literal =>
    rw [hl, Option.map_some, Option.getD_some] at h
    split at h
    · next m hm => exact ⟨m, (Option.some.inj h).symm⟩
    · cases h

namespace Json

mutual

/-- The value with zeros for its numbers. -/
def bare : Json → Json
  | .null => .null
  | .bool b => .bool b
  | .number _ => .number (.integer 0)
  | .string s => .string s
  | .array items => .array (bareItems items)
  | .object fields => .object (bareFields fields)

/-- The items with zeros for their numbers. -/
def bareItems : List Json → List Json
  | [] => []
  | item :: rest => bare item :: bareItems rest

/-- The fields with zeros for their numbers. -/
def bareFields : List (String × Json) → List (String × Json)
  | [] => []
  | (name, value) :: rest => (name, bare value) :: bareFields rest

end

theorem bareItems_eq_map (items : List Json) : bareItems items = items.map bare := by
  induction items with
  | nil => rfl
  | cons item rest ih => rw [bareItems, ih, List.map_cons]

mutual

theorem bare_of_same : {a b : Json} → a.same b = true → a.bare = b.bare
  | .null, b, h => by
    cases b with
    | null => rfl
    | _ => cases h
  | .bool _, b, h => by
    cases b with
    | bool _ => rw [beq_iff_eq.mp h]
    | _ => cases h
  | .number _, b, h => by
    cases b with
    | number _ => rfl
    | _ => cases h
  | .string _, b, h => by
    cases b with
    | string _ => rw [beq_iff_eq.mp h]
    | _ => cases h
  | .array as, b, h => by
    cases b with
    | array bs => rw [bare, bare, bareItems_of_same h]
    | _ => cases h
  | .object as, b, h => by
    cases b with
    | object bs => rw [bare, bare, bareFields_of_same h]
    | _ => cases h

theorem bareItems_of_same : {as bs : List Json} → sameItems as bs = true →
    bareItems as = bareItems bs
  | [], [], _ => rfl
  | [], _ :: _, h => by cases h
  | _ :: _, [], h => by cases h
  | a :: as, b :: bs, h => by
    obtain ⟨hfirst, hrest⟩ := Bool.and_eq_true_iff.mp h
    rw [bareItems, bareItems, bare_of_same hfirst, bareItems_of_same hrest]

theorem bareFields_of_same : {as bs : List (String × Json)} → sameFields as bs = true →
    bareFields as = bareFields bs
  | [], [], _ => rfl
  | [], _ :: _, h => by cases h
  | _ :: _, [], h => by cases h
  | (k, a) :: as, (l, b) :: bs, h => by
    obtain ⟨hfirst, hrest⟩ := Bool.and_eq_true_iff.mp h
    obtain ⟨hname, hvalue⟩ := Bool.and_eq_true_iff.mp hfirst
    rw [bareFields, bareFields, beq_iff_eq.mp hname, bare_of_same hvalue, bareFields_of_same hrest]

end

theorem names_of_bareFields {as bs : List (String × Json)} (h : bareFields as = bareFields bs) :
    as.map Prod.fst = bs.map Prod.fst := by
  have hnames : ∀ fields : List (String × Json),
      (bareFields fields).map Prod.fst = fields.map Prod.fst := by
    intro fields
    induction fields with
    | nil => rfl
    | cons field rest ih => rw [bareFields, List.map_cons, List.map_cons, ih]
  rw [← hnames as, ← hnames bs, h]

theorem sorted_of_bareFields {as bs : Fields Json} (h : bareFields as = bareFields bs)
    (hs : bs.Sorted) : as.Sorted := by
  rw [Fields.Sorted, ← List.pairwise_map, names_of_bareFields h, List.pairwise_map]
  exact hs

/-! ### Values that are read from their text -/

mutual

/-- What an ordered value is read as from its text differs from it only in numbers. -/
theorem bare_of_redraft : {depth : Nat} → {value read : Json} → value.Ordered →
    (value.redraft depth).toJson? = some read → read.bare = value.bare
  | _, .null, _, _, h => by cases h; rfl
  | _, .bool _, _, _, h => by cases h; rfl
  | _, .number _, _, _, h => by
    obtain ⟨m, rfl⟩ := Number.exists_of_redraft h
    rfl
  | _, .string _, _, _, h => by cases h; rfl
  | depth, .array items, _, ho, h => by
    rw [redraft] at h
    split at h
    · obtain ⟨values, hvalues, rfl⟩ := Option.map_eq_some_iff.mp h
      rw [bare, bare, bareItems_of_redraft ho hvalues]
    · cases h
  | depth, .object fields, _, ho, h => by
    rw [redraft] at h
    split at h
    · obtain ⟨values, hvalues, rfl⟩ := Option.map_eq_some_iff.mp h
      have hbare := bareFields_of_redraft ho.2 hvalues
      rw [Fields.ofList_of_sorted (sorted_of_bareFields hbare ho.1), bare, bare, hbare]
    · cases h

theorem bareItems_of_redraft : {depth : Nat} → {items read : List Json} → OrderedItems items →
    Draft.toItems? (redraftItems depth items) = some read → bareItems read = bareItems items
  | _, [], _, _, h => by cases h; rfl
  | _, item :: rest, _, ⟨hi, hr⟩, h => by
    obtain ⟨value, hvalue, h⟩ := Option.bind_eq_some_iff.mp h
    obtain ⟨values, hvalues, h⟩ := Option.bind_eq_some_iff.mp h
    cases h
    rw [bareItems, bareItems, bare_of_redraft hi hvalue, bareItems_of_redraft hr hvalues]

theorem bareFields_of_redraft : {depth : Nat} → {fields read : List (String × Json)} →
    OrderedFields fields → Draft.toFields? (redraftFields depth fields) = some read →
      bareFields read = bareFields fields
  | _, [], _, _, h => by cases h; rfl
  | _, (name, value) :: rest, _, ⟨hv, hr⟩, h => by
    obtain ⟨first, hfirst, h⟩ := Option.bind_eq_some_iff.mp h
    obtain ⟨others, hothers, h⟩ := Option.bind_eq_some_iff.mp h
    cases h
    rw [bareFields, bareFields, bare_of_redraft hv hfirst, bareFields_of_redraft hr hothers]

end

/-- Each field is read on its own. -/
theorem get?_of_redraftFields {depth : Nat} {fields read : Fields Json} {name : String}
    {value : Json} (h : Draft.toFields? (redraftFields depth fields) = some read)
    (hv : fields.get? name = some value) :
    ∃ old, (value.redraft depth).toJson? = some old ∧ read.get? name = some old := by
  induction fields generalizing read with
  | nil => cases hv
  | cons field rest ih =>
    obtain ⟨key, first⟩ := field
    obtain ⟨old, hold, h⟩ := Option.bind_eq_some_iff.mp h
    obtain ⟨others, hothers, h⟩ := Option.bind_eq_some_iff.mp h
    cases h
    rw [Fields.get?_cons] at hv ⊢
    split at hv
    · next hk =>
      cases hv
      exact ⟨old, hold, if_pos hk⟩
    · next hk =>
      rw [if_neg hk]
      exact ih hothers hv

end Json

end RecordWatch
