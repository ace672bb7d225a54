/-! Running other programs. Their effects happen in a monad of the caller's choice. -/

namespace RecordWatch

/-- How a program ended: with a code of its own, or stopped by a signal. -/
inductive ExitStatus where
  | code (n : Nat)
  | signal (n : Nat)
deriving DecidableEq

namespace ExitStatus

/-- The names of the signals, from 1 on. -/
def signalNames : List String :=
  ["HUP", "INT", "QUIT", "ILL", "TRAP", "ABRT", "BUS", "FPE", "KILL", "USR1", "SEGV", "USR2",
    "PIPE", "ALRM", "TERM", "STKFLT", "CHLD", "CONT", "STOP", "TSTP", "TTIN", "TTOU", "URG",
    "XCPU", "XFSZ", "VTALRM", "PROF", "WINCH", "IO", "PWR", "SYS"]

/-- The name of a signal. -/
def signalName? (n : Nat) : Option String := if n = 0 then none else signalNames[n - 1]?

/-- The text of a status. -/
def text : ExitStatus → String
  | .code n => "exit status: " ++ toString n
  | .signal n =>
    let name := (signalName? n).elim "" fun name => " (SIG" ++ name ++ ")"
    "signal: " ++ toString n ++ name

end ExitStatus

/-- A program to run. With an `input` it reads that text, its output is dropped and what it reports
as errors is kept; without one it shares the streams of the caller. A `limit` is the number of
seconds after which it is killed. -/
structure ProgramCall where
  path : String
  arguments : List String
  input : Option String
  limit : Option Nat

/-- What came of a program: it did not start, it was killed at its limit, or it ended. -/
inductive ProgramResult where
  | unstarted
  | killed
  | ended (status : ExitStatus) (complaint : ByteArray)

/-- Runs programs and waits for them. -/
abbrev Programs (m : Type → Type) := ProgramCall → m ProgramResult

end RecordWatch
