import RecordWatch.Trigger

/-! Reading triggers. A node is an object: a group under `and` or `or`, `created`, or a property
with one condition under the name of its kind. Reading never fails; a node that cannot be read
becomes an invalid node in its place. -/

namespace RecordWatch

namespace Comparison

/-- The comparison of an object with one entry. -/
def ofJson : Json → Except ConditionProblem Comparison
  | .object [(name, operand)] =>
    match Operator.ofName? name with
    | some operator => .ok ⟨operator, operand⟩
    | none => .error (.unknownOperator name)
  | .object [] => .error .missing
  | .object fields => .error (.ambiguous (Fields.names fields))
  | raw => .error (.notAnObject "condition" raw)

end Comparison

namespace Condition

/-- The condition on a property of a kind. Formulas are conditioned by their result type, rollups
by theirs or element by element. -/
def ofJson (kind : Kind) (raw : Json) : Except ConditionProblem Condition :=
  match kind with
  | .formula =>
    match raw with
    | .object [(key, comparison)] =>
      match FormulaType.ofConditionKey? key with
      | some result => (Comparison.ofJson comparison).map (.formula result)
      | none => .error (.unknownResult key)
    | .object [] => .error .missing
    | .object fields => .error (.ambiguous (Fields.names fields))
    | raw => .error (.notAnObject "formula" raw)
  | .rollup =>
    match raw with
    | .object [(key, inner)] =>
      if key = "number" then (Comparison.ofJson inner).map .rollupNumber
      else if key = "date" then (Comparison.ofJson inner).map .rollupDate
      else
        match Quantifier.ofName? key with
        | none => .error (.unknownRollup key)
        | some quantifier =>
          match inner with
          | .object [(name, condition)] =>
            match Kind.ofName? name with
            | some kind => (ofJson kind condition).map (.quantified quantifier)
            | none => .error (.unsupportedKind name)
          | .object [] => .error .missing
          | .object fields => .error (.ambiguous (Fields.names fields))
          | raw => .error (.notAnObject key raw)
    | .object [] => .error .missing
    | .object fields => .error (.ambiguous (Fields.names fields))
    | raw => .error (.notAnObject "rollup" raw)
  | kind => (Comparison.ofJson raw).map (.simple kind)
termination_by structural raw

end Condition

namespace Trigger

/-- The condition of a property: the one entry beside its name. -/
def conditionOf (fields : Fields Json) : Except ConditionProblem Condition :=
  match fields.filter fun field => field.1 != "property" with
  | [(name, condition)] =>
    match Kind.ofName? name with
    | some kind => Condition.ofJson kind condition
    | none => .error (.unsupportedKind name)
  | [] => .error .missing
  | entries => .error (.ambiguous (Fields.names entries))

/-- A node that is no group. -/
def leaf (fields : Fields Json) : Trigger :=
  if (Fields.get? fields "created").isSome then .created
  else
    match Fields.get? fields "property" with
    | none => .invalid (.unrecognized (Fields.names fields))
    | some (.string name) =>
      match conditionOf fields with
      | .ok condition => .property name condition
      | .error problem => .invalid (.condition name problem)
    | some raw => .invalid (.propertyNotString raw)

mutual

/-- The trigger of a value. -/
def ofJson : Json → Trigger
  | .object fields =>
    match group? "and" fields with
    | some (.ok children) => .and children
    | some (.error problem) => .invalid problem
    | none =>
      match group? "or" fields with
      | some (.ok children) => .or children
      | some (.error problem) => .invalid problem
      | none => leaf fields
  | raw => .invalid (.notAnObject raw)

/-- The children in a field, if there is such a field. -/
def group? (key : String) : List (String × Json) → Option (Except TriggerProblem (List Trigger))
  | [] => none
  | (name, value) :: rest => if name = key then some (childrenOf key value) else group? key rest

/-- The children of a group: an array of at least one node. -/
def childrenOf (key : String) : Json → Except TriggerProblem (List Trigger)
  | .array [] => .error (.noChildren key)
  | .array (item :: rest) => .ok (ofJson item :: ofItems rest)
  | _ => .error (.childrenNotArray key)

/-- The triggers of a list of values. -/
def ofItems : List Json → List Trigger
  | [] => []
  | item :: rest => ofJson item :: ofItems rest

end

end Trigger

end RecordWatch
