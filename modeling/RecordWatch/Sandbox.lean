import RecordWatch.Program
import RecordWatch.Shell.Machine

/-! A machine in memory on which the program can be tried out: files, a server that gives prepared
replies, shell scripts, and a record of all that was requested, printed and logged. It is there for
these runs only: the theorems are about any environment, and none of them is about this machine or
its shell. -/

namespace RecordWatch

/-- What the server does with a request: it answers, or it hangs up. -/
inductive Reply where
  | response (response : HttpResponse)
  | hangUp

/-- The state of the machine. -/
structure Sandbox where
  files : FileTree
  environment : Fields String
  moment : Moment
  /-- The replies to come; the server hangs up when there are none left. -/
  replies : List Reply
  /-- The requests and the events, latest first. -/
  requests : List PreparedRequest
  events : List Event
  output : ByteArray
  complaint : ByteArray
  /-- Whether the program was asked to stop. -/
  interrupted : Bool

/-- An effect on the machine. -/
abbrev InSandbox := StateM Sandbox

namespace Sandbox

/-- A machine with some files at some time. -/
def ofFiles (files : FileTree) (moment : Moment) : Sandbox where
  files := files
  environment := []
  moment := moment
  replies := []
  requests := []
  events := []
  output := .empty
  complaint := .empty
  interrupted := false

/-- The files of the machine. -/
def disk : Disk InSandbox := FileTree.disk Sandbox.files fun files machine => { machine with files }

/-- Logs an event. -/
def log (event : Event) : InSandbox Unit :=
  modify fun machine => { machine with events := event :: machine.events }

/-- Prints a text. -/
def print (text : String) : InSandbox Unit :=
  modify fun machine => { machine with output := machine.output ++ text.toUTF8 }

/-- Prints a text where errors are reported. -/
def complain (text : String) : InSandbox Unit :=
  modify fun machine => { machine with complaint := machine.complaint ++ text.toUTF8 }

/-- The server, which reads every request but speaks no encrypted protocol. -/
def transport : Transport InSandbox := fun request => do
  let machine ← get
  if request.url.secure then return .error "no secure connection"
  else
    set { machine with
      requests := request :: machine.requests
      replies := machine.replies.drop 1 }
    match machine.replies with
    | .response response :: _ => return .ok response
    | _ => return .error "the connection was closed"

/-- The signals that ask the program to stop. -/
def stopSignals : List Nat := [1, 2, 15]

/-- The programs of the machine. -/
def programs : Programs InSandbox := fun call => do
  let machine ← get
  if call.arguments.any fun argument => argument.contains '\x00' then return .unstarted
  let trace := Shell.Machine.run machine.files machine.environment
    ((call.input.map String.toUTF8).getD .empty) (call.limit.map (· * 1000)) call.path
    call.arguments
  let shared := call.input.isNone
  set { machine with
    files := trace.files
    interrupted := machine.interrupted || trace.signals.any stopSignals.contains
    output := if shared then machine.output ++ trace.output else machine.output
    complaint := if shared then machine.complaint ++ trace.complaint else machine.complaint }
  match trace.result with
  | .ok (.ok status) => return .ended status trace.complaint
  | .ok (.error _) => return .unstarted
  | .error _ => return .killed

/-- The machine as a platform of the program. Waiting takes no time, and the next new id is
given. -/
def platform (machine : Sandbox) (freshId : String) (cycleLimit pageLimit : Nat) :
    Platform InSandbox where
  disk := disk
  transport := transport
  programs := programs
  now := return (← get).moment
  log := log
  print line := print (line ++ "\n")
  freshId := return freshId
  pause _ := return ()
  stopping := return (← get).interrupted
  home := machine.environment.get? "HOME"
  token := machine.environment.get? "PAGEWATCH_API_TOKEN"
  logFilter := machine.environment.get? "RUST_LOG"
  cycleLimit := cycleLimit
  pageLimit := pageLimit

end Sandbox

end RecordWatch
