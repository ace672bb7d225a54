import Mathlib.Data.Stream.Init
import RecordWatch.Client
import RecordWatch.Proofs.Simulation

/-! What a client of the record store hears over the wire. The answers that are to come are a script
without an end, and each attempt takes the next of them. A request is attempted again after every
answer that may pass, as often as the client has patience, and the last answer that it heard decides
what comes of it. -/

namespace RecordWatch

open scoped Stream'

/-- What is heard after a request: a response, or the reason why there is none. -/
abbrev Answer := Except String HttpResponse

/-- The response says that all went well, and the value is its body. -/
structure HttpResponse.Carries (response : HttpResponse) (value : Json) : Prop where
  status : 100 ≤ response.status ∧ response.status < 400
  full : response.status ≠ 204 ∧ response.status ≠ 304
  body : Json.ofText? response.body = some value

namespace Answer

/-- The answer may be another one at the next attempt: nothing came through, or the store asks for
patience or fails. -/
def Transient : Answer → Prop
  | .error _ => True
  | .ok response => response.status < 100 ∨ response.status = 429 ∨ 500 ≤ response.status

instance : DecidablePred Transient
  | .error _ => .isTrue trivial
  | .ok response =>
    inferInstanceAs (Decidable (response.status < 100 ∨ response.status = 429 ∨
      500 ≤ response.status))

/-- What an answer means for its request. A status has three digits, and 204 and 304 come without a
body. -/
def outcome (url : String) : Answer → Except ApiError Json
  | .error reason => .error (.transport url reason)
  | .ok response =>
    if response.status < 100 ∨ 999 < response.status then
      .error (.transport url "the status is not one")
    else if 400 ≤ response.status then .error (.status url response.status response.body)
    else if response.status = 204 ∨ response.status = 304 then .error (.decode url "invalid JSON")
    else
      match Json.ofText? response.body with
      | some value => .ok value
      | none => .error (.decode url "invalid JSON")

theorem ofText?_empty : Json.ofText? "" = none := rfl

/-- The outcome of a response as it is received. -/
theorem outcome_ok (url : String) (response : HttpResponse) :
    outcome url (.ok response) =
      match response.received? with
      | none => .error (.transport url "the status is not one")
      | some response =>
        if response.status < 400 then
          match Json.ofText? response.body with
          | some value => .ok value
          | none => .error (.decode url "invalid JSON")
        else .error (.status url response.status response.body) := by
  rw [outcome, HttpResponse.received?]
  split
  · rfl
  · next hstatus =>
    split
    · next hbad =>
      rw [if_neg (by omega)]
      exact (if_neg (by omega)).symm
    · next hgood =>
      rw [Nat.not_le] at hgood
      split
      · dsimp only
        rw [if_pos hgood, ofText?_empty]
      · exact (if_pos hgood).symm

theorem outcome_eq_ok_iff {url : String} {response : HttpResponse} {value : Json} :
    outcome url (.ok response) = .ok value ↔ response.Carries value := by
  rw [outcome]
  constructor
  · intro h
    split at h
    · cases h
    · split at h
      · cases h
      · split at h
        · cases h
        · next hfull =>
          split at h
          · next hbody => exact ⟨by omega, not_or.mp hfull, Except.ok.inj h ▸ hbody⟩
          · cases h
  · intro h
    have := h.status
    rw [if_neg (by omega), if_neg (by omega), if_neg (not_or.mpr h.full), h.body]

theorem Transient.exists_error {answer : Answer} (h : answer.Transient) (url : String) :
    ∃ error, outcome url answer = .error error := by
  cases answer with
  | error reason => exact ⟨_, rfl⟩
  | ok response =>
    cases houtcome : outcome url (.ok response) with
    | error error => exact ⟨error, rfl⟩
    | ok value =>
      have := (outcome_eq_ok_iff.mp houtcome).status
      rw [Transient] at h
      omega

theorem retryable_iff {url : String} {answer : Answer} {error : ApiError}
    (h : outcome url answer = .error error) : error.retryable = true ↔ answer.Transient := by
  cases answer with
  | error reason => cases h; exact iff_of_true rfl trivial
  | ok response =>
    rw [outcome] at h
    rw [Transient]
    split at h
    · next hstatus => cases h; exact iff_of_true rfl (by omega)
    · split at h
      · next hstatus =>
        cases h
        simp only [ApiError.retryable, Bool.or_eq_true, beq_iff_eq, decide_eq_true_eq]
        omega
      · have hpassed : error.retryable = false := by
          split at h
          · cases h; rfl
          · split at h <;> cases h; rfl
        rw [hpassed]
        exact iff_of_false Bool.false_ne_true (by omega)

end Answer

theorem HttpResponse.Carries.not_transient {response : HttpResponse} {value : Json}
    (h : response.Carries value) : ¬Answer.Transient (.ok response) := by
  have := h.status
  rw [Answer.Transient]
  omega

/-- The wire to a record store: the answers to come and the requests that went out. -/
structure Wire where
  pending : Stream' Answer
  received : List PreparedRequest

namespace Client

section

variable {σ : Type}

/-- What the client sends goes over the wire, and nothing else that it does touches the wire. -/
structure TalksOver (client : Client (StateM σ)) (wire : σ → Wire) : Prop where
  transport : ∀ request s, ∃ s', client.transport request s = ((wire s).pending.head, s') ∧
    wire s' = ⟨(wire s).pending.tail, (wire s).received ++ [request]⟩
  log : ∀ event s, wire (client.log event s).2 = wire s
  waitForRetry : ∀ s, wire (client.waitForRetry s).2 = wire s
  waitForPage : ∀ s, wire (client.waitForPage s).2 = wire s

variable {client : Client (StateM σ)} {wire : σ → Wire}

theorem TalksOver.pause (ht : client.TalksOver wire) (event : Event) (s : σ) :
    wire (client.waitForRetry (client.log event s).2).2 = wire s :=
  (ht.waitForRetry _).trans (ht.log event s)

/-- An attempt hears one answer. -/
theorem TalksOver.attempt_run (ht : client.TalksOver wire) {request : HttpRequest}
    {prepared : PreparedRequest} (hp : request.prepare? = some prepared) (s : σ) :
    ∃ s', client.attempt request s = ((wire s).pending.head.outcome request.url, s') ∧
      wire s' = ⟨(wire s).pending.tail, (wire s).received ++ [prepared]⟩ := by
  obtain ⟨s', hs, hw⟩ := ht.transport prepared s
  refine ⟨s', ?_, hw⟩
  rw [attempt, HttpRequest.send, hp]
  dsimp only
  rw [bind_assoc, bind_run hs]
  cases (wire s).pending.head with
  | error reason => rfl
  | ok response =>
    rw [Answer.outcome_ok]
    dsimp only
    cases response.received? with
    | none => rfl
    | some response =>
      dsimp only
      split
      · rw [pure_bind]
        dsimp only
        cases Json.ofText? response.body <;> rfl
      · rfl

/-- A request that cannot be sent never reaches the wire. -/
theorem attempt_unsent {request : HttpRequest} (hp : request.prepare? = none) (s : σ) :
    client.attempt request s =
      (.error (.transport request.url "the request cannot be sent"), s) := by
  rw [attempt, HttpRequest.send, hp]
  rfl

/-- After an error that may pass, a report and a pause, the request is attempted again. -/
theorem attempts_again {request : HttpRequest} {left : Nat} {s s₁ : σ} {error : ApiError}
    (h : client.attempt request s = (.error error, s₁)) (hr : error.retryable = true) :
    client.attempts request (left + 1) s =
      client.attempts request left (client.waitForRetry (client.log
        (.retrying error.message (client.maxRetries - left) client.maxRetries) s₁).2).2 := by
  rw [attempts, bind_run h]
  dsimp only
  rw [if_pos hr]
  rfl

/-- An attempt settles the request when the patience is at its end or when its error will not
pass. -/
theorem attempts_settled {request : HttpRequest} {left : Nat} {s s₁ : σ}
    {result : Except ApiError Json} (h : client.attempt request s = (result, s₁))
    (hr : 0 < left → ∀ error, result = .error error → error.retryable = false) :
    client.attempts request left s = (result, s₁) := by
  cases left with
  | zero => exact h
  | succ left =>
    rw [attempts, bind_run h]
    cases result with
    | ok value => rfl
    | error error =>
      have hfinal := hr (Nat.succ_pos left) error rfl
      dsimp only
      rw [hfinal]
      rfl

theorem attempts_unsent {request : HttpRequest} (hp : request.prepare? = none) (left : Nat)
    (s : σ) :
    (client.attempts request left s).1 =
      .error (.transport request.url "the request cannot be sent") := by
  induction left generalizing s with
  | zero => exact congrArg Prod.fst (attempt_unsent hp s)
  | succ left ih =>
    rw [attempts_again (attempt_unsent hp s) rfl]
    exact ih _

/-- What is heard of a request: failures that may pass, and a last answer, which may pass too only
if the patience is at its end. -/
structure Settles (patience : Nat) (failures : List Answer) (answer : Answer) : Prop where
  transient : ∀ failure ∈ failures, failure.Transient
  patient : failures.length ≤ patience
  final : failures.length < patience → ¬answer.Transient

/-- Whatever is to come, some of it settles a request. -/
theorem exists_settles (patience : Nat) (answers : Stream' Answer) :
    ∃ failures answer rest, answers = failures ++ₛ answer :: rest ∧
      Settles patience failures answer := by
  induction patience generalizing answers with
  | zero =>
    exact ⟨[], answers.head, answers.tail, (Stream'.eta answers).symm,
      ⟨fun _ hf => absurd hf List.not_mem_nil, Nat.le_refl 0, fun h => absurd h (Nat.lt_irrefl 0)⟩⟩
  | succ left ih =>
    by_cases htransient : answers.head.Transient
    · obtain ⟨failures, answer, rest, heq, h⟩ := ih answers.tail
      refine ⟨answers.head :: failures, answer, rest, ?_, ?_, ?_, ?_⟩
      · rw [Stream'.cons_append_stream, ← heq, Stream'.eta]
      · exact List.forall_mem_cons.mpr ⟨htransient, h.transient⟩
      · exact Nat.succ_le_succ h.patient
      · exact fun hlt => h.final (Nat.lt_of_succ_lt_succ hlt)
    · exact ⟨[], answers.head, answers.tail, (Stream'.eta answers).symm,
        ⟨fun _ hf => absurd hf List.not_mem_nil, Nat.zero_le _, fun _ => htransient⟩⟩

theorem Settles.rest {left : Nat} {failure : Answer} {failures : List Answer} {answer : Answer}
    (h : Settles (left + 1) (failure :: failures) answer) : Settles left failures answer where
  transient := (List.forall_mem_cons.mp h.transient).2
  patient := Nat.le_of_succ_le_succ h.patient
  final hlt := h.final (Nat.succ_lt_succ hlt)

theorem Settles.head_retryable {patience : Nat} {failure : Answer} {failures : List Answer}
    {answer : Answer} (h : Settles patience (failure :: failures) answer) (url : String) :
    ∃ error, failure.outcome url = .error error ∧ error.retryable = true := by
  have hfailure := (List.forall_mem_cons.mp h.transient).1
  obtain ⟨error, houtcome⟩ := hfailure.exists_error url
  exact ⟨error, houtcome, (Answer.retryable_iff houtcome).mpr hfailure⟩

theorem Settles.not_retryable {patience : Nat} {answer : Answer} (h : Settles patience [] answer)
    (hlt : 0 < patience) {url : String} {error : ApiError}
    (herror : answer.outcome url = .error error) : error.retryable = false :=
  Bool.eq_false_iff.mpr fun hretry => h.final hlt ((Answer.retryable_iff herror).mp hretry)

/-- A request is sent once more than it fails, and the last answer decides. -/
theorem TalksOver.attempts_run (ht : client.TalksOver wire) {request : HttpRequest}
    {prepared : PreparedRequest} (hp : request.prepare? = some prepared) {left : Nat}
    {failures : List Answer} {answer : Answer} (h : Settles left failures answer)
    {rest : Stream' Answer} {s : σ} (hs : (wire s).pending = failures ++ₛ answer :: rest) :
    ∃ s', client.attempts request left s = (answer.outcome request.url, s') ∧
      wire s' = ⟨rest, (wire s).received ++ List.replicate (failures.length + 1) prepared⟩ := by
  induction failures generalizing left s with
  | nil =>
    obtain ⟨s', hs', hw⟩ := ht.attempt_run hp s
    rw [hs, Stream'.nil_append_stream, Stream'.head_cons] at hs'
    rw [hs, Stream'.nil_append_stream, Stream'.tail_cons] at hw
    exact ⟨s', attempts_settled hs' fun hlt error herror => h.not_retryable hlt herror, hw⟩
  | cons failure failures ih =>
    obtain ⟨left, rfl⟩ : ∃ n, left = n + 1 :=
      Nat.exists_eq_add_one.mpr (Nat.lt_of_lt_of_le (Nat.succ_pos _) h.patient)
    obtain ⟨s₁, hs₁, hw₁⟩ := ht.attempt_run hp s
    rw [hs, Stream'.cons_append_stream, Stream'.head_cons] at hs₁
    rw [hs, Stream'.cons_append_stream, Stream'.tail_cons] at hw₁
    obtain ⟨error, houtcome, hretry⟩ := h.head_retryable request.url
    rw [houtcome] at hs₁
    -- The rest of the attempts starts where the report and the pause have led.
    have hpause := ht.pause
      (.retrying error.message (client.maxRetries - left) client.maxRetries) s₁
    obtain ⟨s', hs', hw'⟩ := ih h.rest (by rw [hpause, hw₁])
    refine ⟨s', (attempts_again hs₁ hretry).trans hs', ?_⟩
    rw [hw', hpause, hw₁, List.append_assoc]
    rfl

/-- Requests to the url can be sent, and arrive at a target. -/
structure Reaches (client : Client (StateM σ)) (url : String) (target : Url) : Prop where
  target : Url.ofText? url = some target
  token : HttpRequest.isHeaderValue ("Bearer " ++ client.token) = true
  version : HttpRequest.isHeaderValue client.version = true

/-- A request of the client as it arrives at a target. -/
def arrival (client : Client (StateM σ)) (method : String) (target : Url)
    (query : List (String × String)) (body : Option Json) : PreparedRequest where
  method := method
  url := { target with query := target.query ++ query }
  headers :=
    [("Authorization", trimmed ("Bearer " ++ client.token)),
        ("Notion-Version", trimmed client.version)] ++
      if body.isSome then [("Content-Type", "application/json")] else []
  body := body

theorem isHeaderValue_json : HttpRequest.isHeaderValue "application/json" = true := by
  rw [HttpRequest.isHeaderValue, String.all_bool_eq]
  decide

theorem trimmed_json : trimmed "application/json" = "application/json" := by decide

theorem all_headers_request (client : Client (StateM σ)) (method url : String)
    (query : List (String × String)) (body : Option Json) :
    (client.request method url query body).headers.all
        (fun header => HttpRequest.isHeaderValue header.2) =
      (HttpRequest.isHeaderValue ("Bearer " ++ client.token) &&
        HttpRequest.isHeaderValue client.version) := by
  cases body <;> simp [request, HttpRequest.jsonContent, isHeaderValue_json]

theorem headersFor_request (client : Client (StateM σ)) (method url : String)
    (query : List (String × String)) (body : Option Json) (target : Url) :
    ((client.request method url query body).headersFor target).map
        (fun (name, value) => (name, trimmed value)) =
      (client.arrival method target query body).headers := by
  rw [HttpRequest.headersFor, if_pos (by rfl), request, arrival]
  cases body <;> simp [HttpRequest.jsonContent, trimmed_json]

theorem prepare?_request {url : String} {target : Url} (h : client.Reaches url target)
    (method : String) (query : List (String × String)) (body : Option Json) :
    (client.request method url query body).prepare? =
      some (client.arrival method target query body) := by
  have hall := client.all_headers_request method url query body
  rw [h.token, h.version, Bool.and_self] at hall
  have hurl : Url.ofText? (client.request method url query body).url = some target := h.target
  rw [HttpRequest.prepare?, hurl, Option.bind_eq_bind, Option.bind_some, if_pos hall,
    headersFor_request]
  rfl

theorem reaches_of_prepare? {method url : String} {query : List (String × String)}
    {body : Option Json} {prepared : PreparedRequest}
    (h : (client.request method url query body).prepare? = some prepared) :
    ∃ target, client.Reaches url target := by
  obtain ⟨target, htarget, h⟩ := Option.bind_eq_some_iff.mp h
  rw [all_headers_request] at h
  split at h
  · next hall =>
    obtain ⟨htoken, hversion⟩ := Bool.and_eq_true_iff.mp hall
    exact ⟨target, htarget, htoken, hversion⟩
  · cases h

theorem TalksOver.send_run (ht : client.TalksOver wire) {url : String} {target : Url}
    (hr : client.Reaches url target) {failures : List Answer} {answer : Answer}
    (h : Settles client.maxRetries failures answer) {rest : Stream' Answer} (method : String)
    (query : List (String × String)) (body : Option Json) {s : σ}
    (hs : (wire s).pending = failures ++ₛ answer :: rest) :
    ∃ s', client.send method url query body s = (answer.outcome url, s') ∧
      wire s' = ⟨rest, (wire s).received ++
        List.replicate (failures.length + 1) (client.arrival method target query body)⟩ :=
  ht.attempts_run (prepare?_request hr method query body) h hs

theorem prepare?_eq_none {url : String} (hr : ¬∃ target, client.Reaches url target)
    (method : String) (query : List (String × String)) (body : Option Json) :
    (client.request method url query body).prepare? = none := by
  cases hp : (client.request method url query body).prepare? with
  | none => rfl
  | some prepared => exact absurd (reaches_of_prepare? hp) hr

theorem send_unsent {url : String} (hr : ¬∃ target, client.Reaches url target) (method : String)
    (query : List (String × String)) (body : Option Json) (s : σ) :
    (client.send method url query body s).1 =
      .error (.transport url "the request cannot be sent") :=
  attempts_unsent (prepare?_eq_none hr method query body) client.maxRetries s

end

/-! ### A client with a wire and nothing else -/

/-- A client at the end of a wire, with nothing else in its world. -/
def wired : Client (StateM Wire) where
  transport request wire :=
    (wire.pending.head, ⟨wire.pending.tail, wire.received ++ [request]⟩)
  log _ := pure ()
  waitForRetry := pure ()
  waitForPage := pure ()
  baseUrl := "http://[::1]"
  token := "secret"
  version := "2022-06-28"
  pageSize := 100
  maxRetries := 1
  maxPages := 10

theorem talksOver_wired : wired.TalksOver id where
  transport _ _ := ⟨_, rfl, rfl⟩
  log _ _ := rfl
  waitForRetry _ := rfl
  waitForPage _ := rfl

theorem splitOn_address : "::1".splitOn "::" = ["", "1"] := by
  rw [String.splitOn, if_neg (by decide)]
  rw [String.splitOnAux, if_neg (by decide), if_pos (by decide), if_neg (by decide)]
  rw [String.splitOnAux, if_neg (by decide), if_pos (by decide), if_pos (by decide)]
  rw [String.splitOnAux, if_neg (by decide), if_neg (by decide)]
  rw [String.splitOnAux, if_pos (by decide)]
  decide

theorem splitOn_group : "1".splitOn ":" = ["1"] := by
  rw [String.splitOn, if_neg (by decide)]
  rw [String.splitOnAux, if_neg (by decide), if_neg (by decide)]
  rw [String.splitOnAux, if_pos (by decide)]
  decide

theorem host?_address : Url.host? "[::1]".toList = some "[::1]" := by
  have hnone : Host.groups? false "" = some 0 := if_pos rfl
  have hone : Host.groups? true "1" = some 1 := by
    rw [Host.groups?, if_neg (by decide), splitOn_group]
    simp only [String.all_bool_eq]
    decide
  have haddress : Host.isGroupAddress "::1" = true := by
    rw [Host.isGroupAddress, splitOn_address]
    simp [hnone, hone]
  have hinner : (("[::1]".drop 1).dropEnd 1).toString = "::1" := by decide +kernel
  have hend : "[::1]".endsWith "]" = true := by decide +kernel
  have hbrackets : Host.ofBrackets? "[::1]" = some "[::1]" := by
    rw [Host.ofBrackets?, hinner, if_pos ⟨hend, haddress⟩]
  have hport : Url.splitPort false "[::1]".toList = ("[::1]".toList, []) := by decide
  rw [Url.host?, hport]
  dsimp only
  rw [if_neg (by decide), if_pos (by decide)]
  exact hbrackets

theorem decodeQuery_empty : Url.decodeQuery "" = [] := by
  have hsplit : "".splitOn "&" = [""] := by
    rw [String.splitOn, String.splitOnAux]
    decide
  rw [Url.decodeQuery, hsplit]
  rfl

/-- Where queries for the collection `c1` go. -/
def collectionTarget : Url :=
  ⟨false, none, "[::1]", Url.encodePath "/databases/c1/query".toList, []⟩

theorem ofText?_collection :
    Url.ofText? "http://[::1]/databases/c1/query" = some collectionTarget := by
  have hcontrol : ((("http://[::1]/databases/c1/query".toList.dropWhile fun c =>
      decide (c ≤ ' ')).reverse.dropWhile fun c => decide (c ≤ ' ')).reverse.filter fun c =>
        c ≠ '\t' ∧ c ≠ '\n' ∧ c ≠ '\r') = "http://[::1]/databases/c1/query".toList := by
    decide +kernel
  have hscheme : Url.scheme? "http://[::1]/databases/c1/query".toList =
      some ("http", "//[::1]/databases/c1/query".toList) := by decide +kernel
  have hslashes : ("//[::1]/databases/c1/query".toList.dropWhile fun c =>
      decide (c = '/') || decide (c = '\\')) = "[::1]/databases/c1/query".toList := by
    decide +kernel
  have hauthority : ("[::1]/databases/c1/query".toList.span fun c =>
      !(decide (c = '/') || decide (c = '\\')) && decide (c ≠ '?') && decide (c ≠ '#')) =
        ("[::1]".toList, "/databases/c1/query".toList) := by decide +kernel
  have hpath : ("/databases/c1/query".toList.span fun c =>
      decide (c ≠ '?') && decide (c ≠ '#')) = ("/databases/c1/query".toList, []) := by
    decide +kernel
  have huser : Url.splitUser "[::1]".toList = ([], "[::1]".toList) := by decide +kernel
  have hcredentials : Url.credentials? [] = none := by decide +kernel
  simp only [Url.ofText?, hcontrol, hscheme, Option.bind_eq_bind, Option.bind_some, hslashes,
    hauthority, hpath, huser, host?_address, hcredentials, List.takeWhile_nil, List.drop_nil]
  rw [if_neg (by decide)]
  simp [decodeQuery_empty, collectionTarget]

theorem reaches_collection :
    wired.Reaches (wired.baseUrl ++ "/databases/" ++ "c1" ++ "/query") collectionTarget where
  target := ofText?_collection
  token := by
    rw [HttpRequest.isHeaderValue, String.all_bool_eq]
    decide
  version := by
    rw [HttpRequest.isHeaderValue, String.all_bool_eq]
    decide

end Client

end RecordWatch
