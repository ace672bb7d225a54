import RecordWatch.Event
import RecordWatch.Http

/-! Reports to a health monitor, which learns that the listener runs, has ended or has failed. A
report that does not get through is only logged. -/

namespace RecordWatch

/-- What a health monitor is told. -/
inductive HealthState where
  | run
  | complete
  | fail
deriving DecidableEq

namespace HealthState

/-- The name of a state in the query of a report. -/
def name : HealthState → String
  | .run => "run"
  | .complete => "complete"
  | .fail => "fail"

end HealthState

/-- A health monitor, which need not have a url. -/
structure HealthMonitor (m : Type → Type) where
  transport : Transport m
  log : Event → m Unit
  url : Option String

namespace HealthMonitor

variable {m : Type → Type} [Monad m]

/-- The request that reports a state, with the message of a failure. -/
def report (url : String) (state : HealthState) (message : Option String) : HttpRequest where
  method := "GET"
  url := url
  query := ("state", state.name) :: (message.map fun message => ("message", message)).toList
  headers := []
  body := none

/-- Reports a state; without a url there is nothing to do. -/
def ping (monitor : HealthMonitor m) (state : HealthState) (message : Option String) :
    m Unit := do
  match monitor.url with
  | none => return ()
  | some url =>
    match ← (report url state message).send monitor.transport with
    | .success _ => monitor.log (.pingSent state.name)
    | .failure _ => monitor.log (.pingFailed state.name)
    | .unreachable _ => monitor.log (.pingFailed state.name)

end HealthMonitor

end RecordWatch
