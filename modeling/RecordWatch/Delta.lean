import RecordWatch.Change
import RecordWatch.Event
import RecordWatch.Record

/-! What changed between a stored snapshot and the latest records. Only the active properties are
compared, and only those the latest record has; a record that is missing from the latest ones
says nothing. -/

namespace RecordWatch

namespace Delta

/-- The last record of a key. -/
def find? (records : List Record) (key : String) : Option Record :=
  records.foldl (fun found record => if record.key = key then some record else found) none

/-- The new value of an active property with the old one, if they differ. -/
def changed? (before after : Fields Json) (name : String) : Option (Json × Json) :=
  match after.get? name with
  | none => none
  | some new =>
    match before.get? name with
    | none => some (.object [], new)
    | some old => if old.same new then none else some (old, new)

/-- The changed ones among the active properties, each with its old and its new value. -/
def changedProperties (before after : Fields Json) (active : List String) :
    List (String × Json × Json) :=
  active.filterMap fun name => (changed? before after name).map fun values => (name, values)

/-- The change of a record since the snapshot, if there is one. -/
def ofRecord? (old : List Record) (active : List String) (record : Record) : Option ChangeSet :=
  match find? old record.key with
  | none => some (.newPage record.key)
  | some before =>
    match changedProperties before.properties record.properties active with
    | [] => none
    | changes =>
      some (.propertyChanged (Fields.ofList (changes.map fun (name, old, _) => (name, old)))
        (Fields.ofList (changes.map fun (name, _, new) => (name, new))))

/-- The changes of the latest records; of records with one key the last that changed counts. -/
def changes (old latest : List Record) (active : List String) : Changes :=
  latest.foldl (fun (changes : Changes) record =>
    match ofRecord? old active record with
    | some change => changes.put record.key change
    | none => changes) []

/-- What is logged about the changes, record by record. -/
def events (old latest : List Record) (active : List String) : List Event :=
  latest.flatMap fun record =>
    match find? old record.key with
    | none => [.newRecord record.key]
    | some before =>
      (changedProperties before.properties record.properties active).map fun (name, _) =>
        .propertyChanged record.key name

end Delta

end RecordWatch
