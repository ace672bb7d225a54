import RecordWatch.Proofs.Client.Exchange
import RecordWatch.Proofs.Client.Page

/-! Lists that come in pages. To a client the answers to come either serve a page, after failures
that its patience outlasts, or deny it. A list is followed from one page to the next: it is handed
over when a page does not continue, and it is spoilt when a page is denied. Queries and items follow
their pages in the same way, and differ in what they ask for and in what they read as a page. -/

namespace RecordWatch

/-- One page of a list as the store hands it out: the failures before it, the response that it came
in, and what it says. -/
structure Fetch (α : Type) where
  failures : List Answer
  response : HttpResponse
  items : List α
  more : Bool
  cursor : Option String

namespace Fetch

variable {α : Type}

/-- What is heard while the page is fetched. -/
def answers (fetch : Fetch α) : List Answer := fetch.failures ++ [.ok fetch.response]

/-- The failures may pass and are no more than the patience, and the response holds the page. -/
structure Served (patience : Nat) (form : PageForm α) (fetch : Fetch α) : Prop where
  transient : ∀ failure ∈ fetch.failures, failure.Transient
  patient : fetch.failures.length ≤ patience
  page : ∃ value, fetch.response.Carries value ∧
    form value fetch.items fetch.more fetch.cursor

/-- The page says that there are more entries and where they go on. -/
def Continues (fetch : Fetch α) : Prop := fetch.more = true ∧ fetch.cursor.isSome = true

/-- The requests for pages from a cursor on: a page is asked for once more than it failed, and the
next one where it says that the list goes on. -/
def asked (ask : Option String → PreparedRequest) :
    Option String → List (Fetch α) → List PreparedRequest
  | _, [] => []
  | cursor, page :: rest =>
    List.replicate (page.failures.length + 1) (ask cursor) ++ asked ask page.cursor rest

end Fetch

open scoped Stream'

/-- The answers never come to a page: attempts fail until the patience is at its end, or a response
refuses the request for good, or it holds no such page. -/
inductive Denies {α : Type} (patience : Nat) (form : PageForm α) : Stream' Answer → Prop
  | exhausted {failures : List Answer} {rest : Stream' Answer}
      (transient : ∀ failure ∈ failures, failure.Transient)
      (length : failures.length = patience + 1) : Denies patience form (failures ++ₛ rest)
  | refused {failures : List Answer} {response : HttpResponse} {rest : Stream' Answer}
      (transient : ∀ failure ∈ failures, failure.Transient) (patient : failures.length ≤ patience)
      (status : 400 ≤ response.status ∧ response.status < 500 ∧ response.status ≠ 429) :
      Denies patience form (failures ++ₛ .ok response :: rest)
  | unreadable {failures : List Answer} {response : HttpResponse} {rest : Stream' Answer}
      (transient : ∀ failure ∈ failures, failure.Transient) (patient : failures.length ≤ patience)
      (status : 100 ≤ response.status ∧ response.status < 400)
      (unread : ∀ value items more cursor, response.Carries value →
        ¬form value items more cursor) :
      Denies patience form (failures ++ₛ .ok response :: rest)

section

variable {α : Type} {patience : Nat} {form : PageForm α}

theorem Fetch.Served.settles {fetch : Fetch α} (h : fetch.Served patience form) :
    Client.Settles patience fetch.failures (.ok fetch.response) := by
  obtain ⟨value, hvalue, -⟩ := h.page
  exact ⟨h.transient, h.patient, fun _ => hvalue.not_transient⟩

theorem Denies.settles {answers : Stream' Answer} (h : Denies patience form answers) :
    ∃ failures answer rest, answers = failures ++ₛ answer :: rest ∧
      Client.Settles patience failures answer ∧
      ∀ url value items more cursor, answer.outcome url = .ok value →
        ¬form value items more cursor := by
  cases h with
  | @exhausted failures rest transient length =>
    obtain ⟨init, last, rfl⟩ := (List.eq_nil_or_concat' failures).resolve_left
      (List.ne_nil_of_length_eq_add_one length)
    -- The last of the failures is the answer that the client gives up on.
    rw [List.length_append, List.length_singleton] at length
    have hlast : last.Transient := transient last (List.mem_append_right _ List.mem_cons_self)
    refine ⟨init, last, rest, ?_, ⟨fun failure hf => transient failure (List.mem_append_left _ hf),
      by omega, by omega⟩, fun url value items more cursor h => ?_⟩
    · rw [Stream'.append_append_stream]
      rfl
    · obtain ⟨error, herror⟩ := hlast.exists_error url
      rw [herror] at h
      cases h
  | @refused failures response rest transient patient status =>
    refine ⟨failures, .ok response, rest, rfl, ⟨transient, patient, fun _ h => ?_⟩, ?_⟩
    · rw [Answer.Transient] at h
      omega
    · intro url value items more cursor h
      have := (Answer.outcome_eq_ok_iff.mp h).status
      omega
  | @unreadable failures response rest transient patient status unread =>
    refine ⟨failures, .ok response, rest, rfl, ⟨transient, patient, fun _ h => ?_⟩, ?_⟩
    · rw [Answer.Transient] at h
      omega
    · exact fun url value items more cursor h => unread _ _ _ _ (Answer.outcome_eq_ok_iff.mp h)

/-- Whatever is to come, it serves a page or denies it. -/
theorem served_or_denies (patience : Nat) (form : PageForm α) (answers : Stream' Answer) :
    (∃ (fetch : Fetch α) (rest : Stream' Answer), answers = fetch.answers ++ₛ rest ∧
      fetch.Served patience form) ∨ Denies patience form answers := by
  obtain ⟨failures, answer, rest, rfl, h⟩ := Client.exists_settles patience answers
  by_cases htransient : answer.Transient
  · right
    have hlength : failures.length = patience :=
      Nat.le_antisymm h.patient (Nat.not_lt.mp fun hlt => h.final hlt htransient)
    have heq : failures ++ₛ answer :: rest = (failures ++ [answer]) ++ₛ rest := by
      rw [Stream'.append_append_stream]
      rfl
    rw [heq]
    refine .exhausted (fun failure hf => ?_) ?_
    · rcases List.mem_append.mp hf with hf | hf
      · exact h.transient failure hf
      · exact List.mem_singleton.mp hf ▸ htransient
    · rw [List.length_append, hlength, List.length_singleton]
  · cases answer with
    | error reason => exact absurd trivial htransient
    | ok response =>
      rw [Answer.Transient] at htransient
      by_cases hserved : ∃ value items more cursor, response.Carries value ∧
          form value items more cursor
      · obtain ⟨value, items, more, cursor, hvalue, hform⟩ := hserved
        left
        refine ⟨⟨failures, response, items, more, cursor⟩, rest, ?_,
          ⟨h.transient, h.patient, value, hvalue, hform⟩⟩
        rw [Fetch.answers, Stream'.append_append_stream]
        rfl
      · right
        by_cases hstatus : response.status < 400
        · exact .unreadable h.transient h.patient ⟨by omega, hstatus⟩
            fun value items more cursor hvalue hform =>
              hserved ⟨value, items, more, cursor, hvalue, hform⟩
        · exact .refused h.transient h.patient (by omega)

end

theorem HttpResponse.Carries.ordered {response : HttpResponse} {value : Json}
    (h : response.Carries value) : value.Ordered := by
  obtain ⟨draft, -, hdraft⟩ := Option.bind_eq_some_iff.mp h.body
  exact Draft.ordered_of_toJson? hdraft

namespace Client

variable {σ α : Type}

/-- One page: a value is sent for and read as a page, of which a note may be made. -/
def readPage (send : StateM σ (Except ApiError Json)) (read : Json → Option (ListPage × List α))
    (misread : ApiError) (note : ListPage × List α → StateM σ Unit) :
    StateM σ (Except ApiError (ListPage × List α)) := do
  match ← send with
  | .error error => return .error error
  | .ok value =>
    match read value with
    | none => return .error misread
    | some found =>
      note found
      return .ok found

theorem readPage_error {send : StateM σ (Except ApiError Json)} {s : σ} {error : ApiError}
    (h : (send s).1 = .error error) (read : Json → Option (ListPage × List α))
    (misread : ApiError) (note : ListPage × List α → StateM σ Unit) :
    (readPage send read misread note s).1 = .error error := by
  have hsend : send s = (.error error, (send s).2) := Prod.ext h rfl
  rw [readPage, bind_run hsend]
  rfl

/-- The pages of a list from a cursor on, at most so many, after the items read so far. -/
def follow (client : Client (StateM σ)) (url : String)
    (fetch : Option String → StateM σ (Except ApiError (ListPage × List α))) :
    Nat → Option String → List α → StateM σ (Except ApiError (List α))
  | 0, _, _ => return .error (.decode url "too many pages")
  | pages + 1, cursor, read => do
    match ← fetch cursor with
    | .error error => return .error error
    | .ok (page, items) =>
      match page.cursor with
      | none => return .ok (read ++ items)
      | some next =>
        client.waitForPage
        client.follow url fetch pages (some next) (read ++ items)

variable {client : Client (StateM σ)} {wire : σ → Wire}

/-- The page of a query at a cursor. -/
def queryPage (client : Client (StateM σ)) (collection url : String)
    (query : List (String × String)) (filter : Option Json) (cursor : Option String) :
    StateM σ (Except ApiError (ListPage × List Record)) :=
  readPage (client.send "POST" url query (client.queryBody filter cursor))
    (ListPage.withEntries? Record.ofDraft?) (.decode url "not a page of records")
    fun (page, records) => client.log (.pageFetched collection records.length page.hasMore)

theorem queryPages_eq (collection url : String) (query : List (String × String))
    (filter : Option Json) (pages : Nat) (cursor : Option String) (read : List Record) :
    client.queryPages collection url query filter pages cursor read =
      client.follow url (client.queryPage collection url query filter) pages cursor read := by
  induction pages generalizing cursor read with
  | zero => rfl
  | succ pages ih =>
    rw [queryPages, follow, queryPage, readPage, bind_assoc]
    congr 1
    funext result
    cases result with
    | error error => rfl
    | ok value =>
      simp only [← ih]
      rw [← ListPage.withEntries?]
      cases ListPage.withEntries? Record.ofDraft? value <;> rfl

/-- The page of items at a cursor. -/
def itemPage (client : Client (StateM σ)) (url : String) (cursor : Option String) :
    StateM σ (Except ApiError (ListPage × List Json)) :=
  readPage (client.send "GET" url (("page_size", toString client.pageSize) ::
      (cursor.map fun cursor => ("start_cursor", cursor)).toList) none) ListPage.withItems?
    (.decode url "not a page of items") fun _ => pure ()

theorem itemPages_eq (url : String) (pages : Nat) (cursor : Option String) (read : List Json) :
    client.itemPages url pages cursor read =
      client.follow url (client.itemPage url) pages cursor read := by
  induction pages generalizing cursor read with
  | zero => rfl
  | succ pages ih =>
    rw [itemPages, follow, itemPage, readPage, bind_assoc]
    congr 1
    funext result
    cases result with
    | error error => rfl
    | ok value =>
      simp only [← ih, ListPage.withItems?]
      by_cases hlist : (value.field? "object").bind Json.string? = some "list"
      · rw [if_pos hlist, if_pos hlist, ← ListPage.withEntries?]
        cases ListPage.withEntries? Draft.toJson? value <;> rfl
      · rw [if_neg hlist, if_neg hlist]
        rfl

/-- Pages are fetched over the wire: a page that is served is asked for once more than it failed,
and a page that is denied fails. -/
structure FetchesOver (client : Client (StateM σ)) (wire : σ → Wire) (form : PageForm α)
    (ask : Option String → PreparedRequest)
    (fetch : Option String → StateM σ (Except ApiError (ListPage × List α))) : Prop where
  served : ∀ (cursor : Option String) {s : σ} {page : Fetch α} {rest : Stream' Answer},
    page.Served client.maxRetries form → (wire s).pending = page.answers ++ₛ rest →
      ∃ results s', fetch cursor s = (.ok (⟨results, page.more, page.cursor⟩, page.items), s') ∧
        wire s' = ⟨rest, (wire s).received ++
          List.replicate (page.failures.length + 1) (ask cursor)⟩
  denied : ∀ (cursor : Option String) {s : σ}, Denies client.maxRetries form (wire s).pending →
    ∃ error, (fetch cursor s).1 = .error error

theorem TalksOver.fetchesOver (ht : client.TalksOver wire) {url : String} {target : Url}
    (hr : client.Reaches url target) {read : Json → Option (ListPage × List α)}
    {form : PageForm α} (hread : ListPage.Reads read form)
    {note : ListPage × List α → StateM σ Unit} (hnote : ∀ found s, wire (note found s).2 = wire s)
    (method : String) (query : Option String → List (String × String))
    (body : Option String → Option Json) (misread : ApiError) :
    client.FetchesOver wire form
      (fun cursor => client.arrival method target (query cursor) (body cursor))
      fun cursor => readPage (client.send method url (query cursor) (body cursor)) read misread
        note := by
  constructor
  · intro cursor s page rest hserved hs
    rw [Fetch.answers, Stream'.append_append_stream] at hs
    obtain ⟨s', hs', hw⟩ := ht.send_run hr hserved.settles method (query cursor) (body cursor) hs
    obtain ⟨value, hvalue, hform⟩ := hserved.page
    obtain ⟨found, hfound, hmore, hcursor⟩ := (hread value hvalue.ordered _ _ _).mp hform
    rw [Answer.outcome_eq_ok_iff.mpr hvalue] at hs'
    refine ⟨found.results, (note (found, page.items) s').2, ?_, (hnote _ _).trans hw⟩
    rw [readPage, bind_run hs']
    dsimp only
    rw [hfound, ← hmore, ← hcursor]
    rfl
  · intro cursor s hdenied
    obtain ⟨failures, answer, rest, hs, hsettles, hform⟩ := hdenied.settles
    obtain ⟨s', hs', -⟩ := ht.send_run hr hsettles method (query cursor) (body cursor) hs
    rw [readPage, bind_run hs']
    cases houtcome : answer.outcome url with
    | error error => exact ⟨error, rfl⟩
    | ok value =>
      cases answer with
      | error reason => cases houtcome
      | ok response =>
        have hvalue := Answer.outcome_eq_ok_iff.mp houtcome
        have hnone : read value = none := hread.eq_none hvalue.ordered
          fun items more cursor => hform url value items more cursor houtcome
        dsimp only
        rw [hnone]
        exact ⟨misread, rfl⟩

section

variable {form : PageForm α} {ask : Option String → PreparedRequest}
  {fetch : Option String → StateM σ (Except ApiError (ListPage × List α))} {url : String}

theorem FetchesOver.follow_continues (hf : client.FetchesOver wire form ask fetch)
    (ht : client.TalksOver wire) {page : Fetch α} (hserved : page.Served client.maxRetries form)
    (hc : page.Continues) {rest : Stream' Answer} {s : σ}
    (hs : (wire s).pending = page.answers ++ₛ rest) (pages : Nat) (cursor : Option String)
    (read : List α) :
    ∃ s', client.follow url fetch (pages + 1) cursor read s =
        client.follow url fetch pages page.cursor (read ++ page.items) s' ∧
      wire s' = ⟨rest, (wire s).received ++
        List.replicate (page.failures.length + 1) (ask cursor)⟩ := by
  obtain ⟨results, s', hs', hw⟩ := hf.served cursor hserved hs
  obtain ⟨hmore, hcursor⟩ := hc
  obtain ⟨next, hnext⟩ := Option.isSome_iff_exists.mp hcursor
  refine ⟨(client.waitForPage s').2, ?_, (ht.waitForPage s').trans hw⟩
  rw [follow, bind_run hs']
  rw [hmore, hnext]
  rfl

theorem FetchesOver.follow_ends (hf : client.FetchesOver wire form ask fetch) {page : Fetch α}
    (hserved : page.Served client.maxRetries form) (hc : ¬page.Continues)
    {rest : Stream' Answer} {s : σ} (hs : (wire s).pending = page.answers ++ₛ rest) (pages : Nat)
    (cursor : Option String) (read : List α) :
    ∃ s', client.follow url fetch (pages + 1) cursor read s = (.ok (read ++ page.items), s') ∧
      wire s' = ⟨rest, (wire s).received ++
        List.replicate (page.failures.length + 1) (ask cursor)⟩ := by
  obtain ⟨results, s', hs', hw⟩ := hf.served cursor hserved hs
  refine ⟨s', ?_, hw⟩
  have hnext : ListPage.cursor ⟨results, page.more, page.cursor⟩ = none := by
    rw [ListPage.cursor]
    split
    · next hmore => exact Option.not_isSome_iff_eq_none.mp fun hcursor => hc ⟨hmore, hcursor⟩
    · rfl
  rw [follow, bind_run hs']
  dsimp only
  rw [hnext]
  rfl

theorem follow_error {cursor : Option String} {s : σ}
    (h : ∃ error, (fetch cursor s).1 = .error error) (pages : Nat) (read : List α) :
    ∃ error, (client.follow url fetch pages cursor read s).1 = .error error := by
  cases pages with
  | zero => exact ⟨_, rfl⟩
  | succ pages =>
    obtain ⟨error, herror⟩ := h
    have hfetch : fetch cursor s = (.error error, (fetch cursor s).2) := Prod.ext herror rfl
    refine ⟨error, ?_⟩
    rw [follow, bind_run hfetch]
    rfl

/-- A whole list is handed over, and each page is asked for where the one before it ends. -/
theorem FetchesOver.follow_whole (hf : client.FetchesOver wire form ask fetch)
    (ht : client.TalksOver wire) {continued : List (Fetch α)} {last : Fetch α}
    (hserved : ∀ page ∈ continued ++ [last], page.Served client.maxRetries form)
    (hc : ∀ page ∈ continued, page.Continues) (hlast : ¬last.Continues) {pages : Nat}
    (hpages : continued.length < pages) {rest : Stream' Answer} {s : σ}
    (hs : (wire s).pending = (continued ++ [last]).flatMap Fetch.answers ++ₛ rest)
    (cursor : Option String) (read : List α) :
    ∃ s', client.follow url fetch pages cursor read s =
        (.ok (read ++ (continued ++ [last]).flatMap Fetch.items), s') ∧
      wire s' = ⟨rest, (wire s).received ++ Fetch.asked ask cursor (continued ++ [last])⟩ := by
  obtain ⟨pages, rfl⟩ : ∃ n, pages = n + 1 := Nat.exists_eq_add_one.mpr (Nat.zero_lt_of_lt hpages)
  induction continued generalizing pages s cursor read with
  | nil =>
    rw [List.nil_append, List.flatMap_singleton] at hs
    obtain ⟨s', hs', hw⟩ :=
      hf.follow_ends (hserved last List.mem_cons_self) hlast hs pages cursor read
    refine ⟨s', ?_, ?_⟩
    · rw [hs', List.nil_append, List.flatMap_singleton]
    · rw [hw, List.nil_append, Fetch.asked, Fetch.asked, List.append_nil]
  | cons page continued ih =>
    obtain ⟨hpage, hserved⟩ := List.forall_mem_cons.mp hserved
    obtain ⟨hcpage, hc⟩ := List.forall_mem_cons.mp hc
    obtain ⟨pages, rfl⟩ : ∃ n, pages = n + 1 :=
      Nat.exists_eq_add_one.mpr (Nat.zero_lt_of_lt (Nat.lt_of_succ_lt_succ hpages))
    rw [List.cons_append, List.flatMap_cons, Stream'.append_append_stream] at hs
    obtain ⟨s₁, hs₁, hw₁⟩ := hf.follow_continues ht hpage hcpage hs (pages + 1) cursor read
    have hpending : (wire s₁).pending =
        (continued ++ [last]).flatMap Fetch.answers ++ₛ rest := by rw [hw₁]
    obtain ⟨s', hs', hw⟩ := ih hserved hc hpending page.cursor (read ++ page.items) pages
      (Nat.lt_of_succ_lt_succ hpages)
    refine ⟨s', ?_, ?_⟩
    · rw [hs₁, hs', List.cons_append, List.flatMap_cons, List.append_assoc]
    · rw [hw, hw₁, List.append_assoc, List.cons_append, Fetch.asked]

theorem FetchesOver.follow_spoilt (hf : client.FetchesOver wire form ask fetch)
    (ht : client.TalksOver wire) {continued : List (Fetch α)}
    (hserved : ∀ page ∈ continued, page.Served client.maxRetries form)
    (hc : ∀ page ∈ continued, page.Continues) {rest : Stream' Answer}
    (hd : Denies client.maxRetries form rest) {s : σ}
    (hs : (wire s).pending = continued.flatMap Fetch.answers ++ₛ rest)
    (pages : Nat) (cursor : Option String) (read : List α) :
    ∃ error, (client.follow url fetch pages cursor read s).1 = .error error := by
  induction continued generalizing pages s cursor read with
  | nil => exact follow_error (hf.denied cursor (hs ▸ hd)) pages read
  | cons page continued ih =>
    obtain ⟨hpage, hserved⟩ := List.forall_mem_cons.mp hserved
    obtain ⟨hcpage, hc⟩ := List.forall_mem_cons.mp hc
    cases pages with
    | zero => exact ⟨_, rfl⟩
    | succ pages =>
      rw [List.flatMap_cons, Stream'.append_append_stream] at hs
      obtain ⟨s₁, hs₁, hw₁⟩ := hf.follow_continues ht hpage hcpage hs pages cursor read
      rw [hs₁]
      exact ih hserved hc (by rw [hw₁]) pages page.cursor (read ++ page.items)

/-- A list that is handed over is a whole one. -/
theorem FetchesOver.whole_of_follow (hf : client.FetchesOver wire form ask fetch)
    (ht : client.TalksOver wire) {pages : Nat} {cursor : Option String} {read items : List α}
    {s : σ} (h : (client.follow url fetch pages cursor read s).1 = .ok items) :
    ∃ continued last rest, continued.length < pages ∧
      (wire s).pending = (continued ++ [last]).flatMap Fetch.answers ++ₛ rest ∧
      (∀ page ∈ continued ++ [last], page.Served client.maxRetries form) ∧
      (∀ page ∈ continued, page.Continues) ∧ ¬last.Continues := by
  induction pages generalizing s cursor read with
  | zero => cases h
  | succ pages ih =>
    -- The answers serve the next page, which goes on or ends the list, or they deny it.
    rcases served_or_denies client.maxRetries form (wire s).pending with
      ⟨page, rest, hs, hserved⟩ | hd
    · by_cases hc : page.Continues
      · obtain ⟨s₁, hs₁, hw₁⟩ := hf.follow_continues ht hserved hc hs pages cursor read
        rw [hs₁] at h
        obtain ⟨continued, last, rest', hlt, hpending, hall, hcont, hlast⟩ := ih h
        refine ⟨page :: continued, last, rest', Nat.succ_lt_succ hlt, ?_,
          List.forall_mem_cons.mpr ⟨hserved, hall⟩, List.forall_mem_cons.mpr ⟨hc, hcont⟩, hlast⟩
        rw [hw₁] at hpending
        rw [hs, List.cons_append, List.flatMap_cons, Stream'.append_append_stream, ← hpending]
      · refine ⟨[], page, rest, Nat.succ_pos _, ?_, ?_, nofun, hc⟩
        · rw [hs, List.nil_append, List.flatMap_singleton]
        · exact fun other hother => List.mem_singleton.mp hother ▸ hserved
    · obtain ⟨error, herror⟩ := follow_error (hf.denied cursor hd) (pages + 1) read
      rw [herror] at h
      cases h

end

end Client

end RecordWatch
