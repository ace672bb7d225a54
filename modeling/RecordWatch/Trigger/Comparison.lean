import RecordWatch.Calendar.Reader
import RecordWatch.Comparable
import RecordWatch.Text.Search
import RecordWatch.Trigger

/-! What comparators mean. The relative windows of dates are measured from the moment of
evaluation: a week has 7 days, a month 30 and a year 365, and `this_week` is the week from Monday to
Sunday in the zone of evaluation. -/

namespace RecordWatch

/-- An instant in a time zone. -/
structure Moment where
  instant : Instant
  zone : Zone

/-- Why a comparison has no verdict. -/
inductive CompareError where
  | unsupported (operator : Operator) (shape : String)
  | operand (operator : Operator) (expected : String) (operand : Json)
  | date (input : String)
  | arrayNeedsQuantifier

namespace CompareError

/-- The text of the error. -/
def message : CompareError → String
  | .unsupported operator shape =>
    "`" ++ operator.name ++ "` does not apply to " ++ shape ++ " values"
  | .operand operator expected given =>
    "`" ++ operator.name ++ "` expects a " ++ expected ++ " operand, got " ++ given.compact
  | .date input => "invalid date `" ++ input ++ "`"
  | .arrayNeedsQuantifier => "array rollups can only be compared through any, every or none"

end CompareError

namespace Comparison

/-- The operand in the form the operator needs. -/
def operandAs {α : Type} (c : Comparison) (expected : String) (read : Json → Option α) :
    Except CompareError α :=
  match read c.operand with
  | some value => .ok value
  | none => .error (.operand c.operator expected c.operand)

/-- The operand as a string. -/
def stringOperand (c : Comparison) : Except CompareError String := c.operandAs "string" Json.string?

/-- The verdict on a truth value. -/
def onBool (c : Comparison) (value : Bool) : Except CompareError Bool := do
  match c.operator with
  | .equals => return value == (← c.operandAs "boolean" Json.bool?)
  | .doesNotEqual => return value != (← c.operandAs "boolean" Json.bool?)
  | operator => throw (.unsupported operator "checkbox")

/-- The verdict on a number. -/
def onNumber (c : Comparison) (value : Double) : Except CompareError Bool := do
  let operand := c.operandAs "number" Json.double?
  match c.operator with
  | .equals => return value.same (← operand)
  | .doesNotEqual => return !value.same (← operand)
  | .lessThan => return value.less (← operand)
  | .greaterThan => return (← operand).less value
  | .lessThanOrEqualTo => return !(← operand).less value
  | .greaterThanOrEqualTo => return !value.less (← operand)
  | operator => throw (.unsupported operator "number")

/-- The verdict on a text. -/
def onText (c : Comparison) (value : String) : Except CompareError Bool := do
  match c.operator with
  | .isEmpty => return value.isEmpty
  | .isNotEmpty => return !value.isEmpty
  | .equals => return value == (← c.stringOperand)
  | .doesNotEqual => return value != (← c.stringOperand)
  | .contains => return Text.contains value (← c.stringOperand)
  | .doesNotContain => return !Text.contains value (← c.stringOperand)
  | .startsWith => return Text.startsWith value (← c.stringOperand)
  | .endsWith => return Text.endsWith value (← c.stringOperand)
  | operator => throw (.unsupported operator "text")

/-- The operand as a list of strings. -/
def listOperand (c : Comparison) : Except CompareError (List String) :=
  c.operandAs "array of strings" fun operand => operand.items?.bind Json.texts?

/-- The verdict on a list. -/
def onList (c : Comparison) (items : List String) : Except CompareError Bool := do
  match c.operator with
  | .isEmpty => return items.isEmpty
  | .isNotEmpty => return !items.isEmpty
  | .contains => return items.contains (← c.stringOperand)
  | .doesNotContain => return !items.contains (← c.stringOperand)
  | .equals => return items == (← c.listOperand)
  | .doesNotEqual => return items != (← c.listOperand)
  | operator => throw (.unsupported operator "list")

/-- The instant of a date in the zone of evaluation. -/
def dateIn (zone : Zone) (input : String) : Except CompareError Instant :=
  match Instant.ofText? input zone with
  | some t => .ok t
  | none => .error (.date input)

/-- Whether an instant lies in the window of so many days that ends now. A window that starts before
the earliest instant starts there. -/
def inPast (t now : Instant) (days : Int) : Bool :=
  let start := (now.sub? (days * day)).getD .earliest
  decide (start.nanoseconds ≤ t.nanoseconds ∧ t.nanoseconds ≤ now.nanoseconds)

/-- Whether an instant lies in the window of so many days that starts now. A window that ends after
the latest instant ends there. -/
def inFuture (t now : Instant) (days : Int) : Bool :=
  let finish := (now.add? (days * day)).getD .latest
  decide (now.nanoseconds ≤ t.nanoseconds ∧ t.nanoseconds ≤ finish.nanoseconds)

/-- The week of an instant in a zone. -/
def weekOf (zone : Zone) (t : Instant) : Int × Int := Date.week ((zone.wallTime t).fdiv day)

/-- The verdict on a date. -/
def onDate (c : Comparison) (value : String) (now : Moment) : Except CompareError Bool := do
  let t ← dateIn now.zone value
  let reference : Except CompareError Int := do
    return (← dateIn now.zone (← c.stringOperand)).nanoseconds
  match c.operator with
  | .equals => return t.nanoseconds == (← reference)
  | .doesNotEqual => return t.nanoseconds != (← reference)
  | .before => return decide (t.nanoseconds < (← reference))
  | .after => return decide ((← reference) < t.nanoseconds)
  | .onOrBefore => return decide (t.nanoseconds ≤ (← reference))
  | .onOrAfter => return decide ((← reference) ≤ t.nanoseconds)
  | .pastWeek => return inPast t now.instant 7
  | .pastMonth => return inPast t now.instant 30
  | .pastYear => return inPast t now.instant 365
  | .nextWeek => return inFuture t now.instant 7
  | .nextMonth => return inFuture t now.instant 30
  | .nextYear => return inFuture t now.instant 365
  | .thisWeek => return weekOf now.zone t == weekOf now.zone now.instant
  | operator => throw (.unsupported operator "date")

/-- The verdict on a value. A missing value is empty and has no text in it; nothing else holds of
it. -/
def holds (c : Comparison) (value : Comparable) (now : Moment) : Except CompareError Bool :=
  match value with
  | .array _ => .error .arrayNeedsQuantifier
  | .empty =>
    match c.operator with
    | .isEmpty | .doesNotEqual | .doesNotContain => .ok true
    | _ => .ok false
  | .bool b => c.onBool b
  | .number n =>
    match c.operator with
    | .isEmpty => .ok false
    | .isNotEmpty => .ok true
    | _ => c.onNumber n
  | .text s => c.onText s
  | .list items => c.onList items
  | .date d =>
    match c.operator with
    | .isEmpty => .ok false
    | .isNotEmpty => .ok true
    | _ => c.onDate d now

end Comparison

end RecordWatch
