import RecordWatch.Calendar.ZoneReader
import RecordWatch.Event.Line
import RecordWatch.Program
import Std.Time.DateTime.Timestamp

/-! The command line of the program. Files, the clock and the environment are those of the system;
there is neither a network nor a way to run other programs, so requests do not get through and
scripts do not start. -/

namespace RecordWatch

namespace Host

/-- What the program makes of a failed file operation. -/
def fileError : IO.Error → FileError
  | .noFileOrDirectory _ _ _ => .notFound
  | _ => .failed

/-- The outcome of a file operation. -/
def attempt {α : Type} (operation : IO α) : IO (Except FileError α) := do
  match ← operation.toBaseIO with
  | .ok value => return .ok value
  | .error error => return .error (fileError error)

/-- The files of the system. Versions of a file are told apart by their content. -/
def disk : Disk IO where
  isFile path := return (← attempt (IO.FS.readBinFile path)).toBool
  read path := attempt (IO.FS.readBinFile path)
  write path bytes := attempt (IO.FS.writeBinFile path bytes)
  rename source target := attempt (IO.FS.rename source target)
  makeDirectories path :=
    if path.isEmpty then return .ok () else attempt (IO.FS.createDirAll path)
  modified path :=
    return (← attempt (IO.FS.readBinFile path)).map fun bytes => ((hash bytes).toNat : Int)

/-- The time of the system. -/
def instant : IO Instant := do
  let now ← Std.Time.Timestamp.now
  return (Instant.ofNanoseconds? now.toNanosecondsSinceUnixEpoch.val).getD .earliest

/-- The time of the system in the time zone of the environment, which is UTC unless it is given as a
rule. -/
def moment : IO Moment := do
  return ⟨← instant, ((← IO.getEnv "TZ").bind Zone.ofPosix?).getD .utc⟩

/-- Logs an event. -/
def log (event : Event) : IO Unit := do
  IO.eprintln (event.line (← instant))

/-- The most milliseconds that the system waits at once. -/
def longestSleep : Nat := 0xffffffff

/-- A number of cycles or of pages that is never reached. -/
def endless : Nat := 0x3fffffffffffffff

/-- The system as a platform of the program. -/
def platform : IO (Platform IO) := do
  return {
    disk := disk
    transport := fun _ => return .error "there is no network"
    programs := fun _ => return .unstarted
    now := moment
    log := log
    print := fun line => IO.println line
    freshId := return randomId (← IO.getRandomBytes 16).toList
    pause := fun milliseconds => IO.sleep (.ofNat (min milliseconds longestSleep))
    stopping := return false
    home := ← IO.getEnv "HOME"
    token := ← IO.getEnv "PAGEWATCH_API_TOKEN"
    logFilter := ← IO.getEnv "RUST_LOG"
    cycleLimit := endless
    pageLimit := endless }

end Host

end RecordWatch

open RecordWatch in
/-- Runs the program on the system. -/
def main (arguments : List String) : IO UInt32 := do
  let ending ← (← Host.platform).run arguments
  match ending with
  | .usage error =>
    if error.exitCode = 0 then IO.println error.message else IO.eprintln error.message
  | _ => ending.complaint?.forM IO.eprintln
  return .ofNat ending.exitCode
