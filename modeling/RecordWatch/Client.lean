import RecordWatch.Event
import RecordWatch.Http
import RecordWatch.Source

/-! The record store over the web. A request is sent again, up to a limit, when it did not get
through, when the store asks for patience (429) and when the store fails (500 and above). Lists come
in pages, which are followed to the end; if any page fails the whole list does. -/

namespace RecordWatch

/-- One page of a list. -/
structure ListPage where
  results : List Draft
  hasMore : Bool
  nextCursor : Option String

namespace ListPage

/-- The page of a value. -/
def ofJson? (value : Json) : Option ListPage := do
  match ← (Draft.ofJson value).members?
    [⟨"results", false⟩, ⟨"has_more", true⟩, ⟨"next_cursor", true⟩] with
  | [some results, hasMore, cursor] =>
    return {
      results := ← results.items?
      hasMore := ← Draft.orElse? false Draft.bool? hasMore
      nextCursor := ← Draft.optional? Draft.string? cursor }
  | _ => none

/-- Where the next page begins, if there is one. -/
def cursor (page : ListPage) : Option String := if page.hasMore then page.nextCursor else none

end ListPage

/-- A client of the record store. `maxPages` bounds the pages of one list. -/
structure Client (m : Type → Type) where
  transport : Transport m
  log : Event → m Unit
  /-- Waits before a request is sent again. -/
  waitForRetry : m Unit
  /-- Waits between two pages. -/
  waitForPage : m Unit
  baseUrl : String
  token : String
  version : String
  pageSize : Nat
  maxRetries : Nat
  maxPages : Nat

namespace Client

variable {m : Type → Type} [Monad m]

/-- A text without the slashes at its end. -/
def withoutSlashes (text : String) : String :=
  String.ofList (text.toList.reverse.dropWhile (· = '/')).reverse

/-- The request to a url of the store. -/
def request (client : Client m) (method url : String) (query : List (String × String))
    (body : Option Json) : HttpRequest where
  method := method
  url := url
  query := query
  headers :=
    [("Authorization", "Bearer " ++ client.token), ("Notion-Version", client.version)] ++
      if body.isSome then [HttpRequest.jsonContent] else []
  body := body

/-- The JSON body of the response to one attempt. -/
def attempt (client : Client m) (request : HttpRequest) : m (Except ApiError Json) := do
  match ← request.send client.transport with
  | .success response =>
    match Json.ofText? response.body with
    | some value => return .ok value
    | none => return .error (.decode request.url "invalid JSON")
  | .failure response => return .error (.status request.url response.status response.body)
  | .unreachable reason => return .error (.transport request.url reason)

/-- Attempts a request, and again at most `left` times while the error may pass. -/
def attempts (client : Client m) (request : HttpRequest) : Nat → m (Except ApiError Json)
  | 0 => client.attempt request
  | left + 1 => do
    match ← client.attempt request with
    | .ok value => return .ok value
    | .error error =>
      if error.retryable then
        client.log (.retrying error.message (client.maxRetries - left) client.maxRetries)
        client.waitForRetry
        client.attempts request left
      else return .error error

/-- Sends a request and returns the JSON body of its response. -/
def send (client : Client m) (method url : String) (query : List (String × String))
    (body : Option Json) : m (Except ApiError Json) :=
  client.attempts (client.request method url query body) client.maxRetries

/-- The body of the request for a page of a query. -/
def queryBody (client : Client m) (filter : Option Json) (cursor : Option String) : Json :=
  .object (Json.optionalField "filter" filter ++ [("page_size", .integer client.pageSize)] ++
    Json.optionalField "start_cursor" (cursor.map .string))

/-- The records of the pages of a query from a cursor on, after those read so far. -/
def queryPages (client : Client m) (collection url : String) (query : List (String × String))
    (filter : Option Json) :
    Nat → Option String → List Record → m (Except ApiError (List Record))
  | 0, _, _ => return .error (.decode url "too many pages")
  | pages + 1, cursor, read => do
    match ← client.send "POST" url query (client.queryBody filter cursor) with
    | .error error => return .error error
    | .ok value =>
      match (do
        let page ← ListPage.ofJson? value
        return (page, ← page.results.mapM Record.ofDraft?) : Option _) with
      | none => return .error (.decode url "not a page of records")
      | some (page, records) =>
        client.log (.pageFetched collection records.length page.hasMore)
        match page.cursor with
        | none => return .ok (read ++ records)
        | some next =>
          client.waitForPage
          client.queryPages collection url query filter pages (some next) (read ++ records)

/-- Every record of a collection that a filter matches. -/
def query (client : Client m) (collection : String) (properties : Option (List String))
    (filter : Option Json) : m (Except ApiError (List Record)) :=
  client.queryPages collection (client.baseUrl ++ "/databases/" ++ collection ++ "/query")
    ((properties.getD []).map fun id => ("filter_properties", id)) filter client.maxPages none []

/-- The items of the pages of a property from a cursor on, after those read so far. A response that
is no list is the single item. -/
def itemPages (client : Client m) (url : String) :
    Nat → Option String → List Json → m (Except ApiError (List Json))
  | 0, _, _ => return .error (.decode url "too many pages")
  | pages + 1, cursor, read => do
    let query := ("page_size", toString client.pageSize) ::
      (cursor.map fun cursor => ("start_cursor", cursor)).toList
    match ← client.send "GET" url query none with
    | .error error => return .error error
    | .ok value =>
      if (value.field? "object").bind Json.string? = some "list" then
        match (do
          let page ← ListPage.ofJson? value
          return (page, ← page.results.mapM Draft.toJson?) : Option _) with
        | none => return .error (.decode url "not a page of items")
        | some (page, items) =>
          match page.cursor with
          | none => return .ok (read ++ items)
          | some next =>
            client.waitForPage
            client.itemPages url pages (some next) (read ++ items)
      else return .ok (read ++ [value])

/-- Every item of a property of a record. -/
def items (client : Client m) (record property : String) : m (Except ApiError (List Json)) :=
  client.itemPages (client.baseUrl ++ "/pages/" ++ record ++ "/properties/" ++ property)
    client.maxPages none []

/-- Overwrites properties of a record. -/
def update (client : Client m) (record : String) (properties : Json) :
    m (Except ApiError Unit) := do
  let url := client.baseUrl ++ "/pages/" ++ record
  match ← client.send "PATCH" url [] (some (.object [("properties", properties)])) with
  | .ok _ => return .ok ()
  | .error error => return .error error

/-- The record store that a client reaches. -/
def source (client : Client m) : Source m := ⟨client.query, client.items, client.update⟩

end Client

end RecordWatch
