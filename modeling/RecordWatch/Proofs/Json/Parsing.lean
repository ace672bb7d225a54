import RecordWatch.Json.Reader
import RecordWatch.Proofs.Fields
import RecordWatch.Proofs.Json.Lexing

/-! Printed text read back. The pretty text of any value is read as a draft of the same shape, with
the strings and names as they were. Only numbers may come back different or unreadable, and a
container inside too many others is unreadable. -/

namespace RecordWatch

namespace Json

mutual

/-- The draft that a value printed inside `depth` containers is read as. -/
def redraft (depth : Nat) : Json → Draft
  | .null => .null
  | .bool b => .bool b
  | .number n => n.redraft
  | .string s => .string s
  | .array items =>
    if depth < Awaiting.maxDepth then .array (redraftItems (depth + 1) items) else .unreadable
  | .object fields =>
    if depth < Awaiting.maxDepth then .object (redraftFields (depth + 1) fields) else .unreadable

/-- The drafts of the items of an array. -/
def redraftItems (depth : Nat) : List Json → List Draft
  | [] => []
  | item :: rest => redraft depth item :: redraftItems depth rest

/-- The drafts of the fields of an object. -/
def redraftFields (depth : Nat) : List (String × Json) → List (String × Draft)
  | [] => []
  | (name, value) :: rest => (name, redraft depth value) :: redraftFields depth rest

end

theorem redraftItems_eq (depth : Nat) (items : List Json) :
    redraftItems depth items = items.map (redraft depth) := by
  induction items with
  | nil => rfl
  | cons item rest ih => rw [redraftItems, ih, List.map_cons]

theorem redraftFields_eq (depth : Nat) (fields : List (String × Json)) :
    redraftFields depth fields = fields.map fun field => (field.1, field.2.redraft depth) := by
  induction fields with
  | nil => rfl
  | cons field rest ih =>
    obtain ⟨name, value⟩ := field
    rw [redraftFields, ih, List.map_cons]

end Json

namespace Awaiting

/-- What comes next after a list of tokens. -/
def after? (state : Awaiting) (tokens : List Token) : Option Awaiting := tokens.foldlM step? state

theorem after?_cons {state next : Awaiting} {token : Token} (h : state.step? token = some next)
    (tokens : List Token) : state.after? (token :: tokens) = next.after? tokens := by
  rw [after?, List.foldlM_cons, h]
  rfl

/-- The first item of an array is read as any other value. -/
theorem after?_firstItem (stack : List OpenContainer) (value : Json) (more : List Token) :
    (firstItem stack).after? (value.tokens ++ more) =
      (Awaiting.value (.array [] :: stack)).after? (value.tokens ++ more) := by
  cases value <;> rfl

/-- The tokens of a value complete it; a container is readable inside few enough others. -/
def Completes (value : Json) : Prop :=
  ∀ stack more, (Awaiting.value stack).after? (value.tokens ++ more) =
    (complete (value.redraft stack.length) stack).after? more

theorem completes_array {items : List Json}
    (h : ∀ stack more, (firstItem stack).after? (Json.itemTokens items ++ .closeArray :: more) =
      (close (.array (Json.redraftItems (stack.length + 1) items)) stack).after? more) :
    Completes (.array items) := by
  intro stack more
  have := h stack more
  rw [close] at this
  rw [Json.tokens, Json.redraft, List.append_assoc, List.append_assoc, List.singleton_append,
    List.singleton_append, after?_cons rfl, this]

theorem completes_object {fields : List (String × Json)}
    (h : ∀ stack more, (firstName stack).after? (Json.fieldTokens fields ++ .closeObject :: more) =
      (close (.object (Json.redraftFields (stack.length + 1) fields)) stack).after? more) :
    Completes (.object fields) := by
  intro stack more
  have := h stack more
  rw [close] at this
  rw [Json.tokens, Json.redraft, List.append_assoc, List.append_assoc, List.singleton_append,
    List.singleton_append, after?_cons rfl, this]

/-- The tokens of a field add it to the object that is open. -/
theorem after?_field {value : Json} (h : Completes value) (name : String)
    (stack : List OpenContainer) (fields : List (String × Draft)) (more : List Token) :
    (nextName stack fields true).after?
        ([.text (some name)] ++ ([.colon] ++ value.tokens) ++ more) =
      (Awaiting.more (.object ((name, value.redraft (stack.length + 1)) :: fields) true name
        :: stack)).after? more := by
  rw [List.append_assoc, List.append_assoc, List.singleton_append, List.singleton_append,
    after?_cons rfl, named, after?_cons rfl, h]
  rfl

mutual

/-- The tokens of any value complete it. -/
theorem completes : (json : Json) → Completes json
  | .null => fun _ _ => rfl
  | .bool _ => fun _ _ => rfl
  | .number _ => fun _ _ => rfl
  | .string _ => fun _ _ => rfl
  | .array [] => completes_array fun _ _ => rfl
  | .array [item] => completes_array fun stack more => by
    rw [Json.itemTokens, after?_firstItem]
    exact after?_items [item] (List.cons_ne_nil _ _) stack [] more
  | .array (item :: next :: rest) => completes_array fun stack more => by
    rw [Json.itemTokens, List.append_assoc, after?_firstItem, ← List.append_assoc]
    exact after?_items (item :: next :: rest) (List.cons_ne_nil _ _) stack [] more
  | .object [] => completes_object fun _ _ => rfl
  | .object [(name, item)] => completes_object fun stack more =>
    after?_fields [(name, item)] (List.cons_ne_nil _ _) stack [] more
  | .object ((name, item) :: next :: rest) => completes_object fun stack more =>
    after?_fields ((name, item) :: next :: rest) (List.cons_ne_nil _ _) stack [] more

theorem after?_items : (items : List Json) → items ≠ [] →
    ∀ (stack : List OpenContainer) (done : List Draft) (more : List Token),
    (Awaiting.value (.array done :: stack)).after? (Json.itemTokens items ++ .closeArray :: more) =
      (close (.array (done.reverse ++ Json.redraftItems (stack.length + 1) items)) stack).after?
        more
  | [], h => absurd rfl h
  | [item], _ => fun stack done more => by
    rw [Json.itemTokens, completes item, complete, after?_cons rfl, List.reverse_cons]
    rfl
  | item :: next :: rest, _ => fun stack done more => by
    have hrest := after?_items (next :: rest) (List.cons_ne_nil _ _) stack
      (item.redraft (stack.length + 1) :: done) more
    rw [Json.itemTokens, List.append_assoc, completes item, complete, List.append_assoc,
      List.singleton_append, after?_cons rfl, List.length_cons, hrest, List.reverse_cons,
      List.append_assoc]
    rfl

theorem after?_fields : (fields : List (String × Json)) → fields ≠ [] →
    ∀ (stack : List OpenContainer) (done : List (String × Draft)) (more : List Token),
    (nextName stack done true).after? (Json.fieldTokens fields ++ .closeObject :: more) =
      (close (.object (done.reverse ++ Json.redraftFields (stack.length + 1) fields)) stack).after?
        more
  | [], h => absurd rfl h
  | [(name, item)], _ => fun stack done more => by
    rw [Json.fieldTokens, after?_field (completes item), after?_cons rfl, if_pos rfl,
      List.reverse_cons]
    rfl
  | (name, item) :: next :: rest, _ => fun stack done more => by
    have hrest := after?_fields (next :: rest) (List.cons_ne_nil _ _) stack
      ((name, item.redraft (stack.length + 1)) :: done) more
    rw [Json.fieldTokens, List.append_assoc, after?_field (completes item), List.append_assoc,
      List.singleton_append, after?_cons rfl, hrest, List.reverse_cons, List.append_assoc]
    rfl

end

end Awaiting

/-! ### Exact values -/

namespace Json

mutual

/-- The value is read back as it was, printed inside `depth` containers: its numbers are, its fields
are sorted and it is not nested too deeply. -/
def Exact (depth : Nat) : Json → Prop
  | .null => True
  | .bool _ => True
  | .number n => n.redraft = .number n
  | .string _ => True
  | .array items => depth < Awaiting.maxDepth ∧ ExactItems (depth + 1) items
  | .object fields =>
    depth < Awaiting.maxDepth ∧ Fields.Sorted fields ∧ ExactFields (depth + 1) fields

/-- Every item is read back as it was. -/
def ExactItems (depth : Nat) : List Json → Prop
  | [] => True
  | item :: rest => Exact depth item ∧ ExactItems depth rest

/-- The value of every field is read back as it was. -/
def ExactFields (depth : Nat) : List (String × Json) → Prop
  | [] => True
  | (_, value) :: rest => Exact depth value ∧ ExactFields depth rest

end

mutual

theorem Exact.toJson? : {depth : Nat} → {value : Json} → value.Exact depth →
    (value.redraft depth).toJson? = some value
  | _, .null, _ => rfl
  | _, .bool _, _ => rfl
  | _, .number _, h => by
    rw [Exact] at h
    rw [redraft, h, Draft.toJson?]
  | _, .string _, _ => rfl
  | depth, .array items, h => by
    obtain ⟨hd, hi⟩ := h
    rw [redraft, if_pos hd, Draft.toJson?, ExactItems.toItems? hi, Option.map_some]
  | depth, .object fields, h => by
    obtain ⟨hd, hs, hf⟩ := h
    rw [redraft, if_pos hd, Draft.toJson?, ExactFields.toFields? hf, Option.map_some,
      Fields.ofList_of_sorted hs]

theorem ExactItems.toItems? : {depth : Nat} → {items : List Json} → ExactItems depth items →
    Draft.toItems? (redraftItems depth items) = some items
  | _, [], _ => rfl
  | _, item :: rest, ⟨hi, hr⟩ => by
    rw [redraftItems, Draft.toItems?, hi.toJson?, ExactItems.toItems? hr]
    rfl

theorem ExactFields.toFields? : {depth : Nat} → {fields : List (String × Json)} →
    ExactFields depth fields → Draft.toFields? (redraftFields depth fields) = some fields
  | _, [], _ => rfl
  | _, (name, value) :: rest, ⟨hv, hr⟩ => by
    rw [redraftFields, Draft.toFields?, hv.toJson?, ExactFields.toFields? hr]
    rfl

end

end Json

/-- The pretty text of a value is read as its draft. -/
theorem Draft.ofText?_pretty (value : Json) :
    Draft.ofText? value.pretty = some (value.redraft 0) := by
  have h := Awaiting.completes value [] []
  rw [List.append_nil, Awaiting.complete] at h
  rw [Draft.ofText?, Token.ofText?_pretty]
  show (value.tokens.foldlM Awaiting.step? (.value [])).bind _ = _
  rw [← Awaiting.after?, h]
  rfl

end RecordWatch
