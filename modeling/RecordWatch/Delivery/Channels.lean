import RecordWatch.Delivery
import RecordWatch.Http
import RecordWatch.Programs
import RecordWatch.Text.Blank
import RecordWatch.Text.Lossy

/-! The channels by which deliveries are made: webhooks are posted, scripts are run with the key of
the record, and emails are handed to the mail program. -/

namespace RecordWatch

/-- What deliveries are made with. -/
structure Channels (m : Type → Type) where
  transport : Transport m
  programs : Programs m
  /-- The mail program. -/
  mailer : String
  /-- The address that emails come from. -/
  sender : String
  /-- The seconds after which a script is killed. -/
  scriptLimit : Nat

namespace Channels

variable {m : Type → Type} [Monad m]

/-- The request that posts a payload. -/
def post (url : String) (payload : Json) : HttpRequest where
  method := "POST"
  url := url
  query := []
  headers := [HttpRequest.jsonContent]
  body := some payload

/-- What a response to a posted payload means: only statuses from 200 to 299 are a success. -/
def judge (url : String) (response : HttpResponse) : Except DeliveryError Unit :=
  if 200 ≤ response.status ∧ response.status < 300 then .ok ()
  else .error (.webhook url ("HTTP " ++ toString response.status))

/-- Posts a payload. -/
def webhook (channels : Channels m) (url : String) (payload : Json) :
    m (Except DeliveryError Unit) := do
  match ← (post url payload).send channels.transport with
  | .success response => return judge url response
  | .failure response => return judge url response
  | .unreachable reason => return .error (.webhook url reason)

/-- Runs a script with the key of a record as its only argument. -/
def script (channels : Channels m) (path record : String) : m (Except DeliveryError Unit) := do
  match ← channels.programs ⟨path, [record], none, some channels.scriptLimit⟩ with
  | .unstarted => return .error (.spawn path)
  | .killed => return .error (.timeout path channels.scriptLimit)
  | .ended status _ =>
    return if status = .code 0 then .ok () else .error (.exit path status.text)

/-- The text of an email. -/
def letter (sender recipients subject body : String) : String :=
  "From: " ++ sender ++ "\nTo: " ++ recipients ++ "\nSubject: " ++ subject ++
    "\nContent-Type: text/plain; charset=utf-8\n\n" ++ body ++ "\n"

/-- Hands an email to the mail program, which finds the recipients in it. -/
def email (channels : Channels m) (recipients : List String) (subject body : String) :
    m (Except DeliveryError Unit) := do
  let recipients := String.intercalate ", " recipients
  let letter := letter channels.sender recipients subject body
  match ← channels.programs ⟨channels.mailer, ["-t"], some letter, none⟩ with
  | .unstarted => return .error (.email recipients ("failed to run " ++ channels.mailer))
  | .killed => return .error (.email recipients (channels.mailer ++ " was killed"))
  | .ended status complaint =>
    let said := trimmed (Lossy.decode complaint.toList)
    return if status = .code 0 then .ok ()
      else .error (.email recipients ("sendmail " ++ status.text ++ ": " ++ said))

/-- Makes deliveries by the channel of each. -/
def notifier (channels : Channels m) : Notifier m
  | .webhook url payload => channels.webhook url payload
  | .script path record => channels.script path record
  | .email recipients subject body => channels.email recipients subject body

end Channels

end RecordWatch
