import RecordWatch.Json
import RecordWatch.Property.Kind

/-! Property values: the typed payload of one property, and the id the record store gave it. -/

namespace RecordWatch

/-- A date or a range of dates, either end of which may be unset. -/
structure DateRange where
  start : Option String
  finish : Option String
deriving DecidableEq, Inhabited

/-- An attached file, linked from elsewhere or hosted by the record store. -/
inductive Attachment where
  | external (url : String)
  | hosted (url : String)
deriving DecidableEq, Inhabited

/-- Where an attached file is found. -/
def Attachment.url : Attachment → String
  | .external url => url
  | .hosted url => url

/-- A person. -/
structure User where
  id : String
  name : Option String
deriving DecidableEq, Inhabited

/-- The result of a formula. -/
inductive FormulaResult where
  | string (value : Option String)
  | number (value : Option Double)
  | boolean (value : Option Bool)
  | date (value : Option DateRange)
deriving DecidableEq, Inhabited

/-- The type of a formula's result. -/
def FormulaResult.type : FormulaResult → FormulaType
  | .string _ => .string
  | .number _ => .number
  | .boolean _ => .boolean
  | .date _ => .date

/-- The result of a rollup; the elements of an array are raw property values. -/
inductive RollupResult where
  | number (value : Option Double)
  | date (value : Option DateRange)
  | array (elements : List Json)
deriving Inhabited

/-- The name of a rollup's result type. -/
def RollupResult.typeName : RollupResult → String
  | .number _ => "number"
  | .date _ => "date"
  | .array _ => "array"

/-- The payload of a property; options are known by name, related records by id, and text by its
runs. A relation says whether the record store cut its list short. -/
inductive Payload where
  | checkbox (checked : Bool)
  | number (value : Option Double)
  | select (option : Option String)
  | status (option : Option String)
  | date (value : Option DateRange)
  | files (files : List Attachment)
  | multiSelect (options : List String)
  | relation (ids : List String) (hasMore : Bool)
  | people (people : List User)
  | richText (runs : List String)
  | title (runs : List String)
  | formula (result : FormulaResult)
  | rollup (result : RollupResult)
  | lastEditedBy (user : User)
deriving Inhabited

/-- The kind of a payload. -/
def Payload.kind : Payload → Kind
  | .checkbox _ => .checkbox
  | .number _ => .number
  | .select _ => .select
  | .status _ => .status
  | .date _ => .date
  | .files _ => .files
  | .multiSelect _ => .multiSelect
  | .relation _ _ => .relation
  | .people _ => .people
  | .richText _ => .richText
  | .title _ => .title
  | .formula _ => .formula
  | .rollup _ => .rollup
  | .lastEditedBy _ => .lastEditedBy

/-- A decoded property; the elements of a rollup have no id. -/
structure Property where
  id : Option String
  payload : Payload
deriving Inhabited

end RecordWatch
