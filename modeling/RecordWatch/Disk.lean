import RecordWatch.Path

/-! The file operations that the program needs. Their effects happen in a monad of the caller's
choice. -/

namespace RecordWatch

/-- Why a file operation failed: there is nothing at the path, or anything else. -/
inductive FileError where
  | notFound
  | failed
deriving DecidableEq

/-- Access to files. A write replaces the content as a whole, a rename replaces the target, and the
time of the last change only tells versions apart. -/
structure Disk (m : Type → Type) where
  isFile : String → m Bool
  read : String → m (Except FileError ByteArray)
  write : String → ByteArray → m (Except FileError Unit)
  rename : String → String → m (Except FileError Unit)
  makeDirectories : String → m (Except FileError Unit)
  modified : String → m (Except FileError Int)

namespace Disk

variable {m : Type → Type} [Monad m]

/-- The text of a file, which has to be UTF-8. -/
def readText (disk : Disk m) (path : String) : m (Except FileError String) := do
  match ← disk.read path with
  | .error error => return .error error
  | .ok bytes =>
    match String.fromUTF8? bytes with
    | some text => return .ok text
    | none => return .error .failed

end Disk

end RecordWatch
