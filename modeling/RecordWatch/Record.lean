import RecordWatch.Identifier
import RecordWatch.Json.Printer
import RecordWatch.Json.Reader

/-! Records: the entities of a collection, each with raw properties by name. -/

namespace RecordWatch

/-- A record as the record store returns it. -/
structure Record where
  id : String
  createdTime : Option String
  lastEditedTime : Option String
  properties : Fields Json
deriving Inhabited

namespace Record

/-- The key that a record keeps however its id is written. -/
def key (r : Record) : String := plainId r.id

/-- The record of a draft; only the id has to be there. -/
def ofDraft? (draft : Draft) : Option Record := do
  match ← draft.members?
    [⟨"id", false⟩, ⟨"created_time", true⟩, ⟨"last_edited_time", true⟩, ⟨"properties", true⟩] with
  | [some id, created, edited, properties] =>
    return {
      id := ← id.string?
      createdTime := ← Draft.optional? Draft.string? created
      lastEditedTime := ← Draft.optional? Draft.string? edited
      properties := ← Draft.orElse? [] (Draft.map? Draft.toJson?) properties }
  | _ => none

/-- The record of a value. -/
def ofJson? (value : Json) : Option Record := ofDraft? (.ofJson value)

/-- The value of a record, without the times it does not have. -/
def toJson (r : Record) : Json :=
  .object ([("id", .string r.id)] ++
    Json.optionalField "created_time" (r.createdTime.map .string) ++
    Json.optionalField "last_edited_time" (r.lastEditedTime.map .string) ++
    [("properties", .object r.properties)])

/-- The records of a snapshot's text. -/
def listOfText? (text : String) : Option (List Record) := do
  (← Draft.ofText? text).list? ofDraft?

/-- The text of a snapshot. -/
def listText (records : List Record) : String := (Json.array (records.map toJson)).pretty

end Record

end RecordWatch
