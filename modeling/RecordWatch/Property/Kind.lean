/-! The kinds of property a record can carry, and the result types of formulas. Each has one name
in the record store's format. -/

namespace RecordWatch

/-- A kind of property. -/
inductive Kind where
  | checkbox
  | number
  | select
  | status
  | date
  | files
  | multiSelect
  | relation
  | people
  | richText
  | title
  | formula
  | rollup
  | lastEditedBy
deriving DecidableEq, Inhabited

namespace Kind

/-- Every kind. -/
def all : List Kind :=
  [.checkbox, .number, .select, .status, .date, .files, .multiSelect, .relation, .people,
    .richText, .title, .formula, .rollup, .lastEditedBy]

/-- The name of a kind, which is also the key of its payload. -/
def name : Kind → String
  | .checkbox => "checkbox"
  | .number => "number"
  | .select => "select"
  | .status => "status"
  | .date => "date"
  | .files => "files"
  | .multiSelect => "multi_select"
  | .relation => "relation"
  | .people => "people"
  | .richText => "rich_text"
  | .title => "title"
  | .formula => "formula"
  | .rollup => "rollup"
  | .lastEditedBy => "last_edited_by"

/-- The kind of a name. -/
def ofName? (name : String) : Option Kind := all.find? fun kind => kind.name == name

end Kind

/-- The declared result type of a formula. -/
inductive FormulaType where
  | string
  | number
  | boolean
  | date
deriving DecidableEq, Inhabited

namespace FormulaType

/-- Every result type. -/
def all : List FormulaType := [.string, .number, .boolean, .date]

/-- The name in a formula's payload. -/
def name : FormulaType → String
  | .string => "string"
  | .number => "number"
  | .boolean => "boolean"
  | .date => "date"

/-- The key of a condition on this result type; a boolean is conditioned as a checkbox. -/
def conditionKey : FormulaType → String
  | .string => "string"
  | .number => "number"
  | .boolean => "checkbox"
  | .date => "date"

/-- The result type of a name in a payload. -/
def ofName? (name : String) : Option FormulaType := all.find? fun type => type.name == name

/-- The result type of a condition key. -/
def ofConditionKey? (key : String) : Option FormulaType :=
  all.find? fun type => type.conditionKey == key

end FormulaType

end RecordWatch
