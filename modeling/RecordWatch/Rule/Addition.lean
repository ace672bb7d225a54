import RecordWatch.Disk
import RecordWatch.Rule

/-! Adding a rule to the rules file. The rule goes behind the others of its collection, however the
id of the collection is written there; nothing else in the file changes. -/

namespace RecordWatch

/-- Why a rule was not added. -/
inductive AdditionError where
  | trigger (problems : List TriggerProblem)
  | invalid (path : String)
  | unreadable (path : String)
  | directory (path : String)
  | unwritable (path : String)

namespace AdditionError

/-- The text of the error. -/
def message : AdditionError → String
  | .trigger problems =>
    "invalid trigger: " ++ String.intercalate "; " (problems.map TriggerProblem.message)
  | .invalid path => "invalid rules at " ++ path
  | .unreadable path => "failed to read " ++ path
  | .directory path => "failed to create " ++ path
  | .unwritable path => "failed to write " ++ path

end AdditionError

namespace RuleFile

/-- The id under which a file lists a collection, or the id as it is given. -/
def listedId (file : RuleFile) (collection : String) : String :=
  (file.names.find? fun id => plainId id = plainId collection).getD collection

/-- The file with one more rule of a collection. -/
def append (file : RuleFile) (collection : String) (entry : RuleEntry) : RuleFile :=
  let id := file.listedId collection
  file.put id ((Fields.get? file id).getD [] ++ [entry])

variable {m : Type → Type} [Monad m]

/-- The rules of a file that may be missing. -/
def readOrEmpty (disk : Disk m) (path : String) : m (Except AdditionError RuleFile) := do
  match ← disk.readText path with
  | .error .notFound => return .ok []
  | .error .failed => return .error (.unreadable path)
  | .ok text =>
    match ofText? text with
    | some file => return .ok file
    | none => return .error (.invalid path)

/-- Writes a rules file and makes the directory it lies in. -/
def write (disk : Disk m) (path : String) (file : RuleFile) : m (Except AdditionError Unit) := do
  if let some parent := Path.parent? path then
    if let .error _ ← disk.makeDirectories parent then return .error (.directory parent)
  return (← disk.write path file.text.toUTF8).mapError fun _ => .unwritable path

/-- Adds a rule to the file at a path; its trigger has to be free of problems. -/
def add (disk : Disk m) (path collection : String) (entry : RuleEntry) :
    m (Except AdditionError Unit) := do
  match (Trigger.ofJson entry.trigger).problems with
  | [] =>
    match ← readOrEmpty disk path with
    | .error error => return .error error
    | .ok file => write disk path (file.append collection entry)
  | problems => return .error (.trigger problems)

end RuleFile

end RecordWatch
