import RecordWatch.Programs
import RecordWatch.Text.Digits

/-! Signals: their numbers, their names and what they do to a process that does not expect them. -/

namespace RecordWatch

namespace Shell

namespace Signal

/-- The greatest number of a signal. -/
def greatest : Nat := 64

/-- The number of a signal that is given by its number or, in any case, by its name; the end of the
process counts as signal 0. -/
def ofText? (text : String) : Option Nat :=
  match decimal? text with
  | some n => if n ≤ greatest then some n else none
  | none =>
    let name := String.ofList (text.toList.map Char.toUpper)
    if name = "EXIT" then some 0
    else (ExitStatus.signalNames.zipIdx 1).lookup name

/-- The name of a signal, or its number if it has none. -/
def name (n : Nat) : String :=
  if n = 0 then "EXIT" else (ExitStatus.signalName? n).getD (toString n)

/-- The signals that a process ignores unless it expects them. -/
def ignored : List Nat := [17, 18, 23, 28]

/-- The signals that stop a process, which then does nothing any more. -/
def stopping : List Nat := [19, 20, 21, 22]

/-- The signals that no process can expect. -/
def irresistible : List Nat := [9, 19]

/-- What a shell says about a command that a signal killed. -/
def description (n : Nat) : String :=
  let known := ["Hangup", "Interrupt", "Quit", "Illegal instruction", "Trace/breakpoint trap",
    "Aborted", "Bus error", "Floating point exception", "Killed", "User defined signal 1",
    "Segmentation fault", "User defined signal 2", "Broken pipe", "Alarm clock", "Terminated",
    "Stack fault", "Child exited", "Continued", "Stopped (signal)", "Stopped",
    "Stopped (tty input)", "Stopped (tty output)", "Urgent I/O condition",
    "CPU time limit exceeded", "File size limit exceeded", "Virtual timer expired",
    "Profiling timer expired", "Window changed", "I/O possible", "Power failure", "Bad system call"]
  (known[n - 1]?).getD ("Real-time signal " ++ toString (n - 34))

/-- Whether a shell says nothing about a command that a signal killed. -/
def isQuiet (n : Nat) : Bool := n = 2 || n = 13

end Signal

end Shell

end RecordWatch
