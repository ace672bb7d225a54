import RecordWatch.Property

/-! Decoding raw property values. A value is an object whose `type` names the field that holds its
payload; formulas and rollups are tagged the same way inside. One property is decoded at a time, so
a damaged one leaves the others of its record readable. -/

namespace RecordWatch

/-- Why a raw value is not a property. -/
inductive DecodeError where
  | notAnObject
  | missingType
  | missingPayload (tag : String)
  | unsupportedKind (tag : String)
  | malformed (tag : String)
deriving DecidableEq

namespace DecodeError

/-- The text of the error. -/
def message : DecodeError → String
  | .notAnObject => "property value is not an object"
  | .missingType => "missing `type` tag"
  | .missingPayload tag => "missing `" ++ tag ++ "` payload"
  | .unsupportedKind tag => "unsupported property kind: " ++ tag
  | .malformed tag => "malformed `" ++ tag ++ "` payload"

end DecodeError

namespace Json

/-- A value that may be null. -/
def nullable? {α : Type} (read : Json → Option α) : Json → Option (Option α)
  | .null => some none
  | value => (read value).map some

/-- A member that may be absent or null. -/
def optional? {α : Type} (read : Json → Option α) : Option Json → Option (Option α)
  | none => some none
  | some value => value.nullable? read

/-- A list of values. -/
def list? {α : Type} (read : Json → Option α) (value : Json) : Option (List α) := do
  (← value.items?).mapM read

end Json

namespace DateRange

/-- A date payload. -/
def ofJson? (value : Json) : Option DateRange := do
  match ← value.members? [⟨"start", false⟩, ⟨"end", true⟩] with
  | [start, finish] =>
    return ⟨← Json.optional? Json.string? start, ← Json.optional? Json.string? finish⟩
  | _ => none

end DateRange

namespace User

/-- A person. -/
def ofJson? (value : Json) : Option User := do
  match ← value.members? [⟨"id", false⟩, ⟨"name", true⟩] with
  | [some id, name] => return ⟨← id.string?, ← Json.optional? Json.string? name⟩
  | _ => none

end User

namespace Attachment

/-- The url of a link. -/
def link? (value : Json) : Option String := do
  match ← value.members? [⟨"url", false⟩] with
  | [some url] => url.string?
  | _ => none

/-- The attachment of a hosting and its link. -/
def ofLink? (hosting : String) (link : Json) : Option Attachment :=
  if hosting = "external" then (link? link).map .external
  else if hosting = "file" then (link? link).map .hosted
  else none

/-- A file reference, whose `type` names the field of its link; as an array the type comes first. -/
def ofJson? : Json → Option Attachment
  | .object fields => do
    let hosting ← (← Fields.get? fields "type").string?
    ofLink? hosting (← Fields.get? fields hosting)
  | .array [.string hosting, link] => ofLink? hosting link
  | _ => none

end Attachment

namespace Payload

/-- The name of a select or status option. -/
def option? (value : Json) : Option String := do
  match ← value.members? [⟨"name", false⟩] with
  | [some name] => name.string?
  | _ => none

/-- The id of a related record. -/
def reference? (value : Json) : Option String := do
  match ← value.members? [⟨"id", false⟩] with
  | [some id] => id.string?
  | _ => none

/-- The plain text of a run, empty when it has none. -/
def run? (value : Json) : Option String := do
  match ← value.members? [⟨"plain_text", true⟩] with
  | [some text] => text.string?
  | [none] => some ""
  | _ => none

/-- The tag of a raw value and the payload it names. -/
def split (raw : Json) : Except DecodeError (String × Json) :=
  match raw with
  | .object fields =>
    match (Fields.get? fields "type").bind Json.string? with
    | none => .error .missingType
    | some tag =>
      match Fields.get? fields tag with
      | none => .error (.missingPayload tag)
      | some payload => .ok (tag, payload)
  | _ => .error .notAnObject

/-- A payload that was read, or the error of its tag. -/
def required {α : Type} (tag : String) : Option α → Except DecodeError α
  | some value => .ok value
  | none => .error (.malformed tag)

/-- The result of a formula. -/
def formulaOf (payload : Json) : Except DecodeError FormulaResult := do
  let (tag, inner) ← split payload
  match FormulaType.ofName? tag with
  | some .string => required tag ((inner.nullable? Json.string?).map .string)
  | some .number => required tag ((inner.nullable? Json.double?).map .number)
  | some .boolean => required tag ((inner.nullable? Json.bool?).map .boolean)
  | some .date => required tag ((inner.nullable? DateRange.ofJson?).map .date)
  | none => throw (.unsupportedKind ("formula." ++ tag))

/-- The result of a rollup. -/
def rollupOf (payload : Json) : Except DecodeError RollupResult := do
  let (tag, inner) ← split payload
  match tag with
  | "number" => required tag ((inner.nullable? Json.double?).map .number)
  | "date" => required tag ((inner.nullable? DateRange.ofJson?).map .date)
  | "array" => required tag (inner.items?.map .array)
  | _ => throw (.unsupportedKind ("rollup." ++ tag))

/-- Whether a raw relation says that its list was cut short. -/
def hasMore (raw : Json) : Bool := ((raw.field? "has_more").bind Json.bool?).getD false

/-- The payload of a raw value. -/
def decode (raw : Json) : Except DecodeError Payload := do
  let (tag, payload) ← split raw
  match Kind.ofName? tag with
  | none => throw (.unsupportedKind tag)
  | some .checkbox => required tag (payload.bool?.map .checkbox)
  | some .number => required tag ((payload.nullable? Json.double?).map .number)
  | some .select => required tag ((payload.nullable? option?).map .select)
  | some .status => required tag ((payload.nullable? option?).map .status)
  | some .date => required tag ((payload.nullable? DateRange.ofJson?).map .date)
  | some .files => required tag ((payload.list? Attachment.ofJson?).map .files)
  | some .multiSelect => required tag ((payload.list? option?).map .multiSelect)
  | some .relation =>
    required tag ((payload.list? reference?).map fun ids => .relation ids (hasMore raw))
  | some .people => required tag ((payload.list? User.ofJson?).map .people)
  | some .richText => required tag ((payload.list? run?).map .richText)
  | some .title => required tag ((payload.list? run?).map .title)
  | some .formula => return .formula (← formulaOf payload)
  | some .rollup => return .rollup (← rollupOf payload)
  | some .lastEditedBy => required tag ((User.ofJson? payload).map .lastEditedBy)

end Payload

namespace Property

/-- The property of a raw value. -/
def decode (raw : Json) : Except DecodeError Property := do
  return ⟨(raw.field? "id").bind Json.string?, ← Payload.decode raw⟩

end Property

end RecordWatch
