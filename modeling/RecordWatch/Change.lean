import RecordWatch.Json

/-! Change sets: what became of one record between two polls. -/

namespace RecordWatch

/-- The change of one record: it is new, or some of its properties have new values. A property
that was not there before has the empty object as its old value. -/
inductive ChangeSet where
  | newPage (key : String)
  | propertyChanged (old new : Fields Json)
deriving Inhabited

namespace ChangeSet

/-- The change of a single property, without an old value. -/
def single (property : String) (value : Json) : ChangeSet := .propertyChanged [] [(property, value)]

/-- The written form, which names the kind of change. -/
def toJson : ChangeSet → Json
  | .newPage key => .object [("new_page", .string key)]
  | .propertyChanged old new =>
    .object [("property_changed", .object [("new", .object new), ("old", .object old)])]

/-- The change set of a written form. A reader of texts may also take the old and the new values by
position, from an array of the two; a value that was already read has them by name, as here. -/
def ofJson? : Json → Option ChangeSet
  | .object [("new_page", .string key)] => some (.newPage key)
  | .object [("property_changed", .object fields)] => do
    let old ← (← Fields.get? fields "old").fields?
    let new ← (← Fields.get? fields "new").fields?
    return .propertyChanged old new
  | _ => none

/-- What a webhook receives: the change set under the key of its record. -/
def payload (key : String) (change : ChangeSet) : Json := .object [(key, change.toJson)]

end ChangeSet

/-- The changes of one poll, sorted by the keys of their records. -/
abbrev Changes := Fields ChangeSet

end RecordWatch
