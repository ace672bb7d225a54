import RecordWatch.Change
import RecordWatch.Event
import RecordWatch.Rule

/-! Deliveries: what is sent out when a rule fires. Every delivery is attempted once and in order,
whether or not those before it succeed. -/

namespace RecordWatch

/-- One delivery: a payload for a url, the key of a record for a script, or an email. -/
inductive Delivery where
  | webhook (url : String) (payload : Json)
  | script (path record : String)
  | email (recipients : List String) (subject body : String)

namespace Delivery

/-- The kind of a delivery. -/
def channel : Delivery → String
  | .webhook _ _ => "webhook"
  | .script _ _ => "subprocess"
  | .email _ _ _ => "email"

/-- Whom a delivery is for. -/
def target : Delivery → String
  | .webhook url _ => url
  | .script path _ => path
  | .email recipients _ _ => String.intercalate ", " recipients

end Delivery

/-- Why a delivery failed. -/
inductive DeliveryError where
  | webhook (url reason : String)
  | spawn (path : String)
  | exit (path status : String)
  | timeout (path : String) (seconds : Nat)
  | email (recipients reason : String)

namespace DeliveryError

/-- The text of the error. -/
def message : DeliveryError → String
  | .webhook url reason => "webhook " ++ url ++ " failed: " ++ reason
  | .spawn path => "failed to run " ++ path
  | .exit path status => path ++ " exited with " ++ status
  | .timeout path seconds => path ++ " still running after " ++ toString seconds ++ "s, killed"
  | .email recipients reason => "email to " ++ recipients ++ " failed: " ++ reason

end DeliveryError

/-- Makes a delivery. -/
abbrev Notifier (m : Type → Type) := Delivery → m (Except DeliveryError Unit)

/-- How many deliveries succeeded and how many failed. -/
structure Outcome where
  delivered : Nat
  failed : Nat
deriving DecidableEq

namespace Actions

/-- The body of an email about a change: its text, if it has one, and the payload. -/
def emailBody (email : EmailAction) (payload : Json) : String :=
  match email.body with
  | some body => body ++ "\n\n" ++ payload.pretty
  | none => payload.pretty

/-- The deliveries about the change of a record: webhooks, then scripts, then emails. -/
def deliveries (actions : Actions) (record : String) (change : ChangeSet) : List Delivery :=
  let payload := change.payload record
  actions.webhooks.map (fun url => .webhook url payload) ++
    actions.scripts.map (fun path => .script path record) ++
    actions.emails.map fun email =>
      .email email.recipients email.subject (emailBody email payload)

end Actions

namespace Outcome

/-- An outcome with the result of one more delivery. -/
def add (outcome : Outcome) : Except DeliveryError Unit → Outcome
  | .ok _ => { outcome with delivered := outcome.delivered + 1 }
  | .error _ => { outcome with failed := outcome.failed + 1 }

end Outcome

section

variable {m : Type → Type} [Monad m]

/-- One delivery and what is logged about it. -/
def Delivery.attempt (notify : Notifier m) (log : Event → m Unit) (delivery : Delivery) :
    m (Except DeliveryError Unit) := do
  let result ← notify delivery
  match result with
  | .ok _ => log (.delivered delivery.channel delivery.target)
  | .error error => log (.deliveryFailed delivery.channel delivery.target error.message)
  return result

/-- All actions of a rule for the change of a record. -/
def Actions.perform (notify : Notifier m) (log : Event → m Unit) (actions : Actions)
    (record : String) (change : ChangeSet) : m Outcome :=
  (actions.deliveries record change).foldlM
    (fun outcome delivery => return outcome.add (← delivery.attempt notify log)) ⟨0, 0⟩

/-- Tells the operator that the listener has stopped; a failure is only logged. -/
def Notifier.alert (notify : Notifier m) (log : Event → m Unit) (operator message : String) :
    m Unit := do
  match ← notify (.email [operator] "pagewatch stopped" message) with
  | .ok _ => return ()
  | .error error => log (.alertFailed error.message)

end

end RecordWatch
