import RecordWatch.Disk
import RecordWatch.Record

/-! Stored snapshots: one file of records for each collection. A snapshot only grows; the latest
records replace the stored ones with their keys. It is written beside its place and then moved
there, so its place never holds half a snapshot. -/

namespace RecordWatch

/-- Why a snapshot could not be used. -/
inductive StoreError where
  | notFound (collection : String)
  | io
  | json
deriving DecidableEq

namespace StoreError

/-- The text of the error. -/
def message : StoreError → String
  | .notFound collection => "no snapshot for collection: " ++ collection
  | .io => "I/O error"
  | .json => "JSON error"

end StoreError

namespace Snapshot

/-- Records with an index: for a key, the position at which a record of the key is replaced. -/
structure Indexed where
  records : List Record
  index : Fields Nat

namespace Indexed

/-- Records with their index, in which the last record of a key counts. -/
def ofRecords (records : List Record) : Indexed where
  records := records
  index := Fields.ofList (records.zipIdx.map fun (record, position) => (record.key, position))

/-- The records with one more, in the place that the index has for its key or at the end. -/
def put (t : Indexed) (record : Record) : Indexed :=
  match t.index.get? record.key with
  | some position => { t with records := t.records.set position record }
  | none => ⟨t.records ++ [record], t.index.put record.key t.records.length⟩

end Indexed

/-- The stored records overlaid by the latest ones. -/
def overlay (stored latest : List Record) : List Record :=
  (latest.foldl Indexed.put (.ofRecords stored)).records

end Snapshot

/-- The directory of the snapshots. -/
structure SnapshotStore (m : Type → Type) where
  disk : Disk m
  root : String

namespace SnapshotStore

variable {m : Type → Type} [Monad m]

/-- The file of a collection's snapshot. -/
def path (store : SnapshotStore m) (collection : String) : String :=
  Path.join store.root (plainId collection ++ ".json")

/-- The store in a directory, which is made if need be. -/
def create (disk : Disk m) (root : String) : m (Except StoreError (SnapshotStore m)) := do
  match ← disk.makeDirectories root with
  | .ok _ => return .ok ⟨disk, root⟩
  | .error _ => return .error .io

/-- Whether a collection has a snapshot. -/
def contains (store : SnapshotStore m) (collection : String) : m Bool :=
  store.disk.isFile (store.path collection)

/-- The records of a collection's snapshot. -/
def load (store : SnapshotStore m) (collection : String) :
    m (Except StoreError (List Record)) := do
  match ← store.disk.readText (store.path collection) with
  | .error .notFound => return .error (.notFound (plainId collection))
  | .error .failed => return .error .io
  | .ok text =>
    match Record.listOfText? text with
    | some records => return .ok records
    | none => return .error .json

/-- Replaces a collection's snapshot. -/
def save (store : SnapshotStore m) (collection : String) (records : List Record) :
    m (Except StoreError Unit) := do
  let path := store.path collection
  let beside := Path.withExtension path "json.tmp"
  match ← store.disk.write beside (Record.listText records).toUTF8 with
  | .error _ => return .error .io
  | .ok _ =>
    match ← store.disk.rename beside path with
    | .error _ => return .error .io
    | .ok _ => return .ok ()

/-- Overlays a collection's snapshot with the latest records and returns the result. -/
def merge (store : SnapshotStore m) (collection : String) (latest : List Record) :
    m (Except StoreError (List Record)) := do
  let stored ←
    match ← store.load collection with
    | .ok records => pure records
    | .error (.notFound _) => pure []
    | .error error => return .error error
  let records := Snapshot.overlay stored latest
  match ← store.save collection records with
  | .error error => return .error error
  | .ok _ => return .ok records

/-- Moves a collection's snapshot aside and returns where it is now. -/
def quarantine (store : SnapshotStore m) (collection : String) :
    m (Except StoreError String) := do
  let path := store.path collection
  let aside := Path.withExtension path "json.corrupt"
  match ← store.disk.rename path aside with
  | .error _ => return .error .io
  | .ok _ => return .ok aside

end SnapshotStore

end RecordWatch
