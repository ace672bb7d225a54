import RecordWatch.Distinct
import RecordWatch.Property
import RecordWatch.Source

/-! Property values reduced to the few shapes that comparators understand. A relation that the
record store cut short is completed by one lookup, so no comparator sees a partial list. -/

namespace RecordWatch

/-- A property value as comparators see it. Dates are read when they are compared; the elements of
an array are reached only one by one. -/
inductive Comparable where
  | empty
  | bool (value : Bool)
  | number (value : Double)
  | text (value : String)
  | date (value : String)
  | list (items : List String)
  | array (elements : List Json)
deriving Inhabited

/-- Why a relation could not be completed. -/
inductive CompletionError where
  | missingPropertyId
  | lookup (error : ApiError)
  | itemWithoutId (item : Json)

namespace CompletionError

/-- The text of the error. -/
def message : CompletionError → String
  | .missingPropertyId => "relation has more entries but the property id is unknown"
  | .lookup error => "relation follow-up fetch failed: " ++ error.message
  | .itemWithoutId item => "relation follow-up returned an item without an id: " ++ item.compact

end CompletionError

namespace Comparable

/-- The value of an option, or nothing. -/
def ofOption {α : Type} (shape : α → Comparable) : Option α → Comparable
  | some value => shape value
  | none => .empty

/-- A date is compared by its start. -/
def ofDate (range : Option DateRange) : Comparable := ofOption .date (range.bind DateRange.start)

/-- The runs of a text are parts of one string. -/
def ofRuns (runs : List String) : Comparable := .text (String.join runs)

/-- The comparable value of a formula's result. -/
def ofFormula : FormulaResult → Comparable
  | .string value => ofOption .text value
  | .number value => ofOption .number value
  | .boolean value => ofOption .bool value
  | .date value => ofDate value

/-- The comparable value of a rollup's result. -/
def ofRollup : RollupResult → Comparable
  | .number value => ofOption .number value
  | .date value => ofDate value
  | .array elements => .array elements

/-- The comparable value of a payload as it stands. -/
def ofPayload : Payload → Comparable
  | .checkbox checked => .bool checked
  | .number value => ofOption .number value
  | .select option => ofOption .text option
  | .status option => ofOption .text option
  | .date value => ofDate value
  | .files files => .list (files.map Attachment.url)
  | .multiSelect options => .list options
  | .relation ids _ => .list ids
  | .people people => .list (people.map User.id)
  | .richText runs => ofRuns runs
  | .title runs => ofRuns runs
  | .formula result => ofFormula result
  | .rollup result => ofRollup result
  | .lastEditedBy user => .text user.id

/-- The id of a related record in an item of a relation. -/
def relatedId (item : Json) : Except CompletionError String :=
  match (item.field? "relation").bind fun relation => (relation.field? "id").bind Json.string? with
  | some id => .ok id
  | none => .error (.itemWithoutId item)

/-- The ids at hand, followed by those of the items that are not among them yet. -/
def complete (ids : List String) (items : List Json) : Except CompletionError (List String) := do
  let more ← items.mapM relatedId
  return appendNew ids more

end Comparable

namespace Property

/-- The comparable value of a property; `lookup` gives the items of a property of its record. -/
def comparable {m : Type → Type} [Monad m]
    (lookup : String → m (Except ApiError (List Json))) (property : Property) :
    m (Except CompletionError Comparable) :=
  match property.payload with
  | .relation ids true =>
    match property.id with
    | none => return .error .missingPropertyId
    | some id => do
      match ← lookup id with
      | .error error => return .error (.lookup error)
      | .ok items => return (Comparable.complete ids items).map .list
  | payload => return .ok (Comparable.ofPayload payload)

end Property

end RecordWatch
