import RecordWatch.Change
import RecordWatch.Event
import RecordWatch.Property.Decode
import RecordWatch.Trigger.Comparison

/-! Evaluating a trigger on the change of one record. What cannot be decided (an invalid node, a
value that does not decode, an operand of the wrong type) is logged and does not hold. Groups stop
at the first child that decides them. -/

namespace RecordWatch

/-- Why a predicate could not be decided. -/
inductive PredicateError where
  | decode (error : DecodeError)
  | completion (error : CompletionError)
  | compare (error : CompareError)
  | kindMismatch (expected found : Kind)
  | formulaMismatch (expected found : FormulaType)
  | rollupMismatch (found : RollupResult)

namespace PredicateError

/-- The text of the error. -/
def message : PredicateError → String
  | .decode error => error.message
  | .completion error => error.message
  | .compare error => error.message
  | .kindMismatch expected found =>
    "condition expects a " ++ expected.name ++ " property, found " ++ found.name
  | .formulaMismatch expected found =>
    "condition expects a " ++ expected.conditionKey ++ " formula, found " ++ found.name
  | .rollupMismatch found =>
    "rollup condition does not match the rollup's " ++ found.typeName ++ " result"

end PredicateError

/-- What evaluation may ask for: the items of a property of a record, and the moment. -/
structure Context (m : Type → Type) where
  items : String → String → m (Except ApiError (List Json))
  now : m Moment
  log : Event → m Unit

namespace Quantifier

/-- The verdict on an array from the verdicts on its elements; `every` needs an element. -/
def combine (quantifier : Quantifier) (verdicts : List Bool) : Bool :=
  match quantifier with
  | .any => verdicts.any id
  | .every => !verdicts.isEmpty && verdicts.all id
  | .no => !verdicts.any id

end Quantifier

section

variable {m : Type → Type} [Monad m]

/-- A step whose error becomes one of the predicate. -/
def PredicateError.lift {ε α : Type} (wrap : ε → PredicateError) (step : m (Except ε α)) :
    ExceptT PredicateError m α := ExceptT.mk do
  match ← step with
  | .ok value => return .ok value
  | .error error => return .error (wrap error)

/-- A verdict of a comparison on a decoded property of a record. The clock is read once the value
is complete. -/
def Comparison.check (context : Context m) (record : String) (property : Property)
    (comparison : Comparison) : ExceptT PredicateError m Bool := do
  let value ← PredicateError.lift .completion (property.comparable (context.items record))
  let now ← (context.now : m Moment)
  PredicateError.lift .compare (pure (comparison.holds value now))

/-- The verdict of a condition on a raw value of a property of a record. The elements of a rollup
are checked in order, and the first that cannot be decided leaves the whole undecided. -/
def Condition.check (context : Context m) (record : String) :
    Condition → Json → ExceptT PredicateError m Bool
  | .simple kind comparison, raw => do
    let property ← PredicateError.lift .decode (pure (Property.decode raw))
    if property.payload.kind = kind then comparison.check context record property
    else throw (.kindMismatch kind property.payload.kind)
  | .formula expected comparison, raw => do
    let property ← PredicateError.lift .decode (pure (Property.decode raw))
    match property.payload with
    | .formula result =>
      if result.type = expected then comparison.check context record property
      else throw (.formulaMismatch expected result.type)
    | payload => throw (.kindMismatch .formula payload.kind)
  | .rollupNumber comparison, raw => do
    let property ← PredicateError.lift .decode (pure (Property.decode raw))
    match property.payload with
    | .rollup (.number _) => comparison.check context record property
    | .rollup result => throw (.rollupMismatch result)
    | payload => throw (.kindMismatch .rollup payload.kind)
  | .rollupDate comparison, raw => do
    let property ← PredicateError.lift .decode (pure (Property.decode raw))
    match property.payload with
    | .rollup (.date _) => comparison.check context record property
    | .rollup result => throw (.rollupMismatch result)
    | payload => throw (.kindMismatch .rollup payload.kind)
  | .quantified quantifier inner, raw => do
    let property ← PredicateError.lift .decode (pure (Property.decode raw))
    match property.payload with
    | .rollup (.array elements) =>
      return quantifier.combine (← elements.mapM (inner.check context record))
    | .rollup result => throw (.rollupMismatch result)
    | payload => throw (.kindMismatch .rollup payload.kind)

/-- Whether a property is among the changed ones and satisfies the condition. -/
def Condition.holds (context : Context m) (record property : String) (condition : Condition)
    (change : ChangeSet) : m Bool := do
  match change with
  | .newPage _ => return false
  | .propertyChanged _ new =>
    match Fields.get? new property with
    | none => return false
    | some raw =>
      match ← (condition.check context record raw).run with
      | .ok verdict => return verdict
      | .error error =>
        context.log (.predicateFailed record property error.message)
        return false

mutual

/-- Whether a trigger fires on the change of a record. -/
def Trigger.fires (context : Context m) (record : String) (change : ChangeSet) :
    Trigger → m Bool
  | .and children => allFire context record change children
  | .or children => anyFires context record change children
  | .created =>
    match change with
    | .newPage _ => return true
    | .propertyChanged _ _ => return false
  | .property name condition => condition.holds context record name change
  | .invalid problem => do
    context.log (.invalidNode record problem.message)
    return false

/-- Whether all of a list of triggers fire; none after the first that does not is tried. -/
def Trigger.allFire (context : Context m) (record : String) (change : ChangeSet) :
    List Trigger → m Bool
  | [] => return true
  | child :: rest => do
    if ← child.fires context record change then allFire context record change rest
    else return false

/-- Whether any of a list of triggers fires; none after the first that does is tried. -/
def Trigger.anyFires (context : Context m) (record : String) (change : ChangeSet) :
    List Trigger → m Bool
  | [] => return false
  | child :: rest => do
    if ← child.fires context record change then return true
    else anyFires context record change rest

end

end

end RecordWatch
