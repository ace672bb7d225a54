import RecordWatch.Http.Url
import RecordWatch.Json.Printer
import RecordWatch.Json.Reader
import RecordWatch.Text.Base64
import RecordWatch.Text.Blank

/-! Web requests and their responses. A request that cannot be put into words is refused before
anything is sent. -/

namespace RecordWatch

/-- A request: pairs are added to the query of its url, and a body is sent as JSON. -/
structure HttpRequest where
  method : String
  url : String
  query : List (String × String)
  headers : List (String × String)
  body : Option Json

/-- A request as it is sent. -/
structure PreparedRequest where
  method : String
  url : Url
  headers : List (String × String)
  body : Option Json

/-- A response. -/
structure HttpResponse where
  status : Nat
  body : String

namespace HttpResponse

/-- The response as it is received. A status has three digits, and 204 and 304 come without a
body. -/
def received? (response : HttpResponse) : Option HttpResponse :=
  if response.status < 100 ∨ 999 < response.status then none
  else if response.status = 204 ∨ response.status = 304 then some { response with body := "" }
  else some response

end HttpResponse

namespace HttpRequest

/-- Whether a header can hold a value. -/
def isHeaderValue (value : String) : Bool :=
  value.all fun c => c = ' ' || c = '\t' || ('!' ≤ c && c ≤ '~')

/-- The header that tells a server who the user of a url is. -/
def credentials (user : String × String) : String × String :=
  let text := user.1 ++ ":" ++ user.2
  ("Authorization", "Basic " ++ String.ofList (Base64.encode text.toUTF8.toList))

/-- The headers of a request with those that its url asks for. -/
def headersFor (request : HttpRequest) (url : Url) : List (String × String) :=
  if request.headers.any fun header => header.1 = "Authorization" then request.headers
  else request.headers ++ (url.user.map credentials).toList

/-- The request as it is sent, if its url and its headers allow it. Blanks at the ends of a header's
value are no part of it. -/
def prepare? (request : HttpRequest) : Option PreparedRequest := do
  let url ← Url.ofText? request.url
  if request.headers.all fun header => isHeaderValue header.2 then
    return {
      method := request.method
      url := { url with query := url.query ++ request.query }
      headers := (request.headersFor url).map fun (name, value) => (name, trimmed value)
      body := request.body }
  else none

end HttpRequest

/-- Sends requests; without a response there is a reason. -/
abbrev Transport (m : Type → Type) := PreparedRequest → m (Except String HttpResponse)

/-- What came of a request: a response, one whose status says that it failed, or none. -/
inductive HttpResult where
  | success (response : HttpResponse)
  | failure (response : HttpResponse)
  | unreachable (reason : String)

namespace HttpRequest

/-- The header of requests with a body. -/
def jsonContent : String × String := ("Content-Type", "application/json")

/-- Sends a request; statuses from 400 on are failures. -/
def send {m : Type → Type} [Monad m] (transport : Transport m) (request : HttpRequest) :
    m HttpResult := do
  match request.prepare? with
  | none => return .unreachable "the request cannot be sent"
  | some prepared =>
    match ← transport prepared with
    | .error reason => return .unreachable reason
    | .ok response =>
      match response.received? with
      | none => return .unreachable "the status is not one"
      | some response =>
        return if response.status < 400 then .success response else .failure response

end HttpRequest

end RecordWatch
