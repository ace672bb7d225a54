import RecordWatch.Record

/-! The record store as the program sees it: records are queried, long properties are looked up and
records are updated. The effects of these calls happen in a monad of the caller's choice. -/

namespace RecordWatch

/-- Why a call to the record store gave no answer. -/
inductive ApiError where
  | transport (url reason : String)
  | status (url : String) (code : Nat) (body : String)
  | decode (url reason : String)
  | missingToken

namespace ApiError

/-- The text of the error. -/
def message : ApiError → String
  | .transport url reason => "request to " ++ url ++ " failed: " ++ reason
  | .status url code body => url ++ " returned HTTP " ++ toString code ++ ": " ++ body
  | .decode url reason => "unexpected response from " ++ url ++ ": " ++ reason
  | .missingToken =>
    "no API token: set `api-token` in the config file or PAGEWATCH_API_TOKEN"

/-- Whether a later attempt may succeed. -/
def retryable : ApiError → Bool
  | .transport _ _ => true
  | .status _ code _ => code == 429 || 500 ≤ code
  | .decode _ _ => false
  | .missingToken => false

end ApiError

/-- Access to the record store. A query names the collection, the property ids to fetch (all of
them if none are named) and the filter; items are those of one property of one record. -/
structure Source (m : Type → Type) where
  query : String → Option (List String) → Option Json → m (Except ApiError (List Record))
  items : String → String → m (Except ApiError (List Json))
  update : String → Json → m (Except ApiError Unit)

end RecordWatch
