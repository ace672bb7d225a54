import RecordWatch.Proofs.Trigger.Ambiguity

/-! The grammar of triggers and their written form. A tree of the grammar is read from its written
form as it is, and every value that is read without problems is read as a tree of the grammar; so
the written form of what was read stands for what was read. -/

namespace RecordWatch

/-! ### Names -/

namespace Kind

@[simp] theorem ofName?_name (kind : Kind) : ofName? kind.name = some kind := by
  cases kind <;> rfl

/-- No kind has the name of another key of a node. -/
theorem name_not_key (kind : Kind) :
    kind.name ∉ ["and", "or", "created", "property"] := by
  cases kind <;> decide

end Kind

@[simp] theorem Operator.ofName?_name (operator : Operator) :
    ofName? operator.name = some operator := by
  cases operator <;> rfl

@[simp] theorem FormulaType.ofConditionKey?_conditionKey (type : FormulaType) :
    ofConditionKey? type.conditionKey = some type := by
  cases type <;> rfl

namespace Quantifier

@[simp] theorem ofName?_name (quantifier : Quantifier) :
    ofName? quantifier.name = some quantifier := by
  cases quantifier <;> rfl

/-- No quantifier has the name of a result that is compared as a whole. -/
theorem name_not_result (quantifier : Quantifier) :
    quantifier.name ≠ "number" ∧ quantifier.name ≠ "date" := by
  cases quantifier <;> decide

end Quantifier

/-! ### The grammar -/

/-- The conditions of the grammar: formulas and rollups have conditions of their own. -/
def Condition.Grammatical : Condition → Prop
  | .simple kind _ => kind ≠ .formula ∧ kind ≠ .rollup
  | .formula _ _ => True
  | .rollupNumber _ => True
  | .rollupDate _ => True
  | .quantified _ inner => inner.Grammatical

namespace Trigger

mutual

/-- The trees of the grammar: every group has a child, and no node is invalid. -/
def Grammatical : Trigger → Prop
  | .and children => children ≠ [] ∧ AllGrammatical children
  | .or children => children ≠ [] ∧ AllGrammatical children
  | .created => True
  | .property _ condition => condition.Grammatical
  | .invalid _ => False

/-- Every tree of a list is one of the grammar. -/
def AllGrammatical : List Trigger → Prop
  | [] => True
  | child :: rest => Grammatical child ∧ AllGrammatical rest

end

theorem allGrammatical_iff {children : List Trigger} :
    AllGrammatical children ↔ ∀ child ∈ children, child.Grammatical := by
  induction children with
  | nil => exact iff_of_true trivial (by simp)
  | cons child rest ih => rw [AllGrammatical, List.forall_mem_cons, ih]

end Trigger

/-! ### The written form -/

/-- The written form of a comparison. -/
def Comparison.toJson (comparison : Comparison) : Json :=
  .object [(comparison.operator.name, comparison.operand)]

namespace Condition

/-- The kind of property that a condition is about. -/
def kind : Condition → Kind
  | .simple kind _ => kind
  | .formula _ _ => .formula
  | .rollupNumber _ => .rollup
  | .rollupDate _ => .rollup
  | .quantified _ _ => .rollup

/-- The written form of a condition, which stands under the name of its kind. -/
def toJson : Condition → Json
  | .simple _ comparison => comparison.toJson
  | .formula result comparison => .object [(result.conditionKey, comparison.toJson)]
  | .rollupNumber comparison => .object [("number", comparison.toJson)]
  | .rollupDate comparison => .object [("date", comparison.toJson)]
  | .quantified quantifier inner =>
    .object [(quantifier.name, .object [(inner.kind.name, inner.toJson)])]

end Condition

namespace Trigger

mutual

/-- The written form of a tree. An invalid node has none; null stands in its place. -/
def toJson : Trigger → Json
  | .and children => .object [("and", .array (toItems children))]
  | .or children => .object [("or", .array (toItems children))]
  | .created => .object [("created", .object [])]
  | .property name condition =>
    .object (Fields.ofList [("property", .string name), (condition.kind.name, condition.toJson)])
  | .invalid _ => .null

/-- The written forms of a list of trees. -/
def toItems : List Trigger → List Json
  | [] => []
  | child :: rest => toJson child :: toItems rest

end

end Trigger

/-! ### Reading what was written -/

theorem Comparison.ofJson_toJson (comparison : Comparison) :
    ofJson comparison.toJson = .ok comparison := by
  rw [toJson, ofJson, Operator.ofName?_name]

theorem Condition.ofJson_toJson {condition : Condition} (h : condition.Grammatical) :
    ofJson condition.kind condition.toJson = .ok condition := by
  induction condition with
  | simple kind comparison =>
    rw [Condition.kind, toJson, ofJson, Comparison.ofJson_toJson]
    · rfl
    · exact h.1
    · exact h.2
  | formula result comparison =>
    rw [Condition.kind, toJson, ofJson]
    simp only [FormulaType.ofConditionKey?_conditionKey, Comparison.ofJson_toJson]
    rfl
  | rollupNumber comparison =>
    rw [Condition.kind, toJson, ofJson]
    simp only [if_pos, Comparison.ofJson_toJson]
    rfl
  | rollupDate comparison =>
    rw [Condition.kind, toJson, ofJson]
    simp [Comparison.ofJson_toJson]
    rfl
  | quantified quantifier inner ih =>
    obtain ⟨hn, hd⟩ := quantifier.name_not_result
    rw [Condition.kind, toJson, ofJson]
    simp only [if_neg hn, if_neg hd, Quantifier.ofName?_name, Kind.ofName?_name, ih h]
    rfl

namespace Trigger

/-- The condition of a property is the entry beside its name, on whichever side it stands. -/
theorem filter_ofList {key : String} (h : key ≠ "property") (name value : Json) :
    (Fields.ofList [("property", name), (key, value)]).filter (fun field => field.1 != "property") =
      [(key, value)] := by
  have hkey : (key != "property") = true := by simpa using h
  show (Fields.put key value [("property", name)]).filter _ = _
  rw [Fields.put]
  split
  · simp [hkey]
  · simp [Fields.put, hkey]

theorem get?_ofList (key : String) (name value : Json) (other : String) :
    (Fields.ofList [("property", name), (key, value)]).get? other =
      if key = other then some value else if "property" = other then some name else none := by
  show (Fields.put key value [("property", name)]).get? other = _
  rw [Fields.get?_put, Fields.get?_cons, Fields.get?_nil]

theorem ofJson_property {name : String} {condition : Condition} (h : condition.Grammatical) :
    ofJson (toJson (.property name condition)) = .property name condition := by
  have hkeys := condition.kind.name_not_key
  simp only [List.mem_cons, List.not_mem_nil, or_false, not_or] at hkeys
  obtain ⟨ha, ho, hc, hp⟩ := hkeys
  have hget := get?_ofList condition.kind.name (.string name) condition.toJson
  have hhead : head? (Fields.ofList [("property", .string name),
      (condition.kind.name, condition.toJson)]) = none := by
    simp [head?, heads, hget, ha, ho, hc]
  have hcondition : conditionOf (Fields.ofList [("property", .string name),
      (condition.kind.name, condition.toJson)]) = .ok condition := by
    rw [conditionOf, filter_ofList hp]
    simp only [Kind.ofName?_name, Condition.ofJson_toJson h]
  rw [toJson, ofJson_of_no_head hhead, leaf]
  simp [hget, hc, hp, hcondition]

mutual

/-- A tree of the grammar is read from its written form. -/
theorem ofJson_toJson : {trigger : Trigger} → trigger.Grammatical →
    ofJson trigger.toJson = trigger
  | .and [], h => absurd rfl h.1
  | .and (child :: rest), h => by
    have hhead : head? [("and", .array (toItems (child :: rest)))] =
        some ("and", .array (toItems (child :: rest))) := rfl
    rw [toJson, ofJson_of_head hhead, ofHead, toItems, childrenOf, ofJson_toJson h.2.1,
      ofItems_toItems h.2.2]
    rfl
  | .or [], h => absurd rfl h.1
  | .or (child :: rest), h => by
    have hhead : head? [("or", .array (toItems (child :: rest)))] =
        some ("or", .array (toItems (child :: rest))) := rfl
    rw [toJson, ofJson_of_head hhead, ofHead, toItems, childrenOf, ofJson_toJson h.2.1,
      ofItems_toItems h.2.2]
    rfl
  | .created, _ => rfl
  | .property _ _, h => ofJson_property h
  | .invalid _, h => h.elim

theorem ofItems_toItems : {children : List Trigger} → AllGrammatical children →
    ofItems (toItems children) = children
  | [], _ => rfl
  | child :: rest, h => by
    rw [toItems, ofItems, ofJson_toJson h.1, ofItems_toItems h.2]

end

mutual

/-- Nothing is wrong with a tree of the grammar. -/
theorem problems_of_grammatical : {trigger : Trigger} → trigger.Grammatical → trigger.problems = []
  | .and _, h => problemsOf_of_grammatical h.2
  | .or _, h => problemsOf_of_grammatical h.2
  | .created, _ => rfl
  | .property _ _, _ => rfl
  | .invalid _, h => h.elim

theorem problemsOf_of_grammatical : {children : List Trigger} → AllGrammatical children →
    problemsOf children = []
  | [], _ => rfl
  | child :: rest, h => by
    rw [problemsOf, problems_of_grammatical h.1, problemsOf_of_grammatical h.2, List.append_nil]

end

end Trigger

/-! ### What is read -/

theorem exists_of_map_ok {ε α β : Type} {f : α → β} {result : Except ε α} {b : β}
    (h : result.map f = .ok b) : ∃ a, result = .ok a ∧ f a = b := by
  cases result with
  | error error => cases h
  | ok a => exact ⟨a, rfl, Except.ok.inj h⟩

/-- A condition that was read is one of the grammar. -/
theorem Condition.grammatical_of_ofJson {kind : Kind} {raw : Json} {condition : Condition}
    (h : ofJson kind raw = .ok condition) : condition.Grammatical := by
  fun_induction ofJson kind raw generalizing condition with
  | case1 =>
    obtain ⟨comparison, -, rfl⟩ := exists_of_map_ok h
    trivial
  | case6 =>
    obtain ⟨comparison, -, rfl⟩ := exists_of_map_ok h
    trivial
  | case7 =>
    obtain ⟨comparison, -, rfl⟩ := exists_of_map_ok h
    trivial
  | case9 key hn hd quantifier hq name raw kind hk ih =>
    obtain ⟨inner, hinner, rfl⟩ := exists_of_map_ok h
    have hg := ih hinner
    exact hg
  | case17 raw kind hf hr =>
    obtain ⟨comparison, -, rfl⟩ := exists_of_map_ok h
    exact ⟨hf, hr⟩
  | _ => cases h

namespace Trigger

theorem grammatical_of_conditionOf {fields : Fields Json} {condition : Condition}
    (h : conditionOf fields = .ok condition) : condition.Grammatical := by
  rw [conditionOf] at h
  split at h
  · split at h
    · exact Condition.grammatical_of_ofJson h
    · cases h
  · cases h
  · cases h

/-- A listed node is smaller than the group that lists it. -/
theorem sizeOf_lt_of_listed {fields : Fields Json} {key : String} {items : List Json} {item : Json}
    (h : head? fields = some (key, .array items)) (hi : item ∈ items) :
    sizeOf item < sizeOf (Json.object fields) := by
  have hfield := List.sizeOf_lt_of_mem (Fields.get?_eq_some_mem (head?_eq_some h).2)
  have hitem := List.sizeOf_lt_of_mem hi
  simp only [Prod.mk.sizeOf_spec, Json.array.sizeOf_spec] at hfield
  rw [Json.object.sizeOf_spec]
  omega

/-- What holds of the trees that the reader builds from what it has read holds of all that it
reads. -/
theorem ofJson_induction {P : Trigger → Prop}
    (and : ∀ children, children ≠ [] → (∀ child ∈ children, P child) → P (.and children))
    (or : ∀ children, children ≠ [] → (∀ child ∈ children, P child) → P (.or children))
    (created : P .created)
    (property : ∀ name condition, condition.Grammatical → P (.property name condition))
    (invalid : ∀ problem, P (.invalid problem)) : (raw : Json) → P (ofJson raw)
  | .object fields => by
    cases hh : head? fields with
    | none =>
      rw [ofJson_of_no_head hh, leaf]
      split
      · exact created
      split
      · exact invalid _
      · split
        · next hc => exact property _ _ (grammatical_of_conditionOf hc)
        · exact invalid _
      · exact invalid _
    | some head =>
      rw [ofJson_of_head hh]
      by_cases hm : Malformed head
      · obtain ⟨problem, hp⟩ := (ofHead_invalid_iff head).mpr hm
        rw [hp]
        exact invalid problem
      obtain ⟨key, value⟩ := head
      by_cases hk : key = "created"
      · rw [ofHead, if_pos hk]
        exact created
      -- The entry is a group with a node in it.
      obtain ⟨item, rest, rfl⟩ : ∃ item rest, value = .array (item :: rest) := by
        simpa [Malformed, hk] using hm
      have hall : ∀ child ∈ (item :: rest).map ofJson, P child := by
        intro child hc
        obtain ⟨node, hnode, rfl⟩ := List.mem_map.mp hc
        exact ofJson_induction and or created property invalid node
      rw [ofHead, if_neg hk, childrenOf, ofItems_eq, ← List.map_cons]
      dsimp only
      split
      · exact and _ (List.cons_ne_nil _ _) hall
      · exact or _ (List.cons_ne_nil _ _) hall
  | .null => invalid _
  | .bool _ => invalid _
  | .number _ => invalid _
  | .string _ => invalid _
  | .array _ => invalid _
termination_by raw => sizeOf raw
decreasing_by exact sizeOf_lt_of_listed hh hnode

/-- A value that is read without problems is read as a tree of the grammar. -/
theorem grammatical_of_problems {raw : Json} : (ofJson raw).problems = [] →
    (ofJson raw).Grammatical := by
  have hgroup (children : List Trigger) (hne : children ≠ [])
      (hp : problemsOf children = [])
      (hall : ∀ child ∈ children, child.problems = [] → child.Grammatical) :
      children ≠ [] ∧ AllGrammatical children := by
    refine ⟨hne, allGrammatical_iff.mpr fun child hc => hall child hc ?_⟩
    refine List.eq_nil_iff_forall_not_mem.mpr fun problem hproblem => ?_
    have hmem := mem_problemsOf.mpr ⟨child, hc, hproblem⟩
    rw [hp] at hmem
    cases hmem
  apply ofJson_induction (P := fun trigger => trigger.problems = [] → trigger.Grammatical)
  · exact fun children hne hall hp => hgroup children hne hp hall
  · exact fun children hne hall hp => hgroup children hne hp hall
  · exact fun _ => trivial
  · exact fun _ _ hc _ => hc
  · exact fun problem hp => by cases hp

/-- The reader is complete and canonical. Each tree of the grammar, whatever its property names,
operators and operands, is read from its written form without problems; and a value that is read
without problems is read as such a tree, which its written form stands for. -/
theorem reads_grammar :
    (∀ trigger : Trigger, trigger.Grammatical →
      ofJson trigger.toJson = trigger ∧ (ofJson trigger.toJson).problems = []) ∧
    ∀ raw : Json, (ofJson raw).problems = [] →
      (ofJson raw).Grammatical ∧ ofJson (ofJson raw).toJson = ofJson raw := by
  refine ⟨fun trigger h => ?_, fun raw h => ?_⟩
  · rw [ofJson_toJson h]
    exact ⟨rfl, problems_of_grammatical h⟩
  · have hg := grammatical_of_problems h
    exact ⟨hg, ofJson_toJson hg⟩

/-- A tree with a condition of every form. -/
def variety : Trigger :=
  .and [
    .or [.created, .property "Due" (.formula .boolean ⟨.equals, .bool true⟩)],
    .property "Total" (.rollupNumber ⟨.greaterThan, .integer 3⟩),
    .property "Jobs" (.quantified .no (.quantified .any (.rollupDate ⟨.nextWeek, .object []⟩))),
    .property "Status" (.simple .select ⟨.equals, .string "Done"⟩)]

/-- The tree is read as it was written, and a property beside `created` is read as `created` and
written as that. -/
theorem reads_grammar_variety :
    ofJson variety.toJson = variety ∧ (ofJson variety.toJson).problems = [] ∧
      (ofJson (.object hasty)).Grammatical ∧
        ofJson (ofJson (.object hasty)).toJson = ofJson (.object hasty) := by
  obtain ⟨hwritten, hread⟩ := reads_grammar
  have hvariety : variety.Grammatical := by
    simp [variety, Grammatical, AllGrammatical, Condition.Grammatical]
  exact ⟨(hwritten variety hvariety).1, (hwritten variety hvariety).2, hread (.object hasty) rfl⟩

end Trigger

end RecordWatch
