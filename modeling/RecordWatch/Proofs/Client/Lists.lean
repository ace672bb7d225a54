import RecordWatch.Proofs.Client.Pagination
import RecordWatch.Proofs.Json.Parsing

/-! The lists that a client hands over. A list is handed over exactly if its pages come one after
another and the last of them does not say where the list goes on; so a page that says that there are
more and not where ends a list before its end. Pages that lead from one to the next up to the last
are handed over as one list, whatever failures pass on the way, and a page that never comes spoils
the whole list. -/

namespace RecordWatch

open scoped Stream'

theorem Fetch.not_continues_iff {α : Type} {page : Fetch α} :
    ¬page.Continues ↔ page.more = false ∨ page.cursor = none := by
  rw [Continues, not_and_or, Bool.not_eq_true, Option.not_isSome_iff_eq_none]

/-- A response with a value that was printed, and is read back as it was. -/
theorem HttpResponse.Carries.of_exact {value : Json} (h : value.Exact 0) :
    HttpResponse.Carries ⟨200, value.pretty⟩ value where
  status := (by decide : 100 ≤ 200 ∧ 200 < 400)
  full := (by decide : 200 ≠ 204 ∧ 200 ≠ 304)
  body := by
    rw [Json.ofText?, Draft.ofText?_pretty]
    exact h.toJson?

namespace Client

variable {σ α : Type} {client : Client (StateM σ)} {wire : σ → Wire}

/-- A list is handed over, and so many answers are heard, exactly if these are the answers for pages
of which each but the last says that there are more and where they go on, and the last says that
there are no more or does not say where they go on; the list has the items of all of them. -/
def HandsOver (client : Client (StateM σ)) (wire : σ → Wire) (url : String) (form : PageForm α)
    (run : StateM σ (Except ApiError (List α))) : Prop :=
  ∀ s items rest, (run s).1 = .ok items ∧ (wire (run s).2).pending = rest ↔
    (∃ target, client.Reaches url target) ∧
      ∃ continued last, continued.length < client.maxPages ∧
        (wire s).pending = (continued ++ [last]).flatMap Fetch.answers ++ₛ rest ∧
        (∀ page ∈ continued ++ [last], page.Served client.maxRetries form) ∧
        (∀ page ∈ continued, page.Continues) ∧ (last.more = false ∨ last.cursor = none) ∧
        items = (continued ++ [last]).flatMap Fetch.items

/-- Pages that continue up to the last, which says that there are no more, are handed over as one
list if the client follows that many, and each was asked for where the one before it ends. A page
that is denied leaves no list. -/
structure Faithful (client : Client (StateM σ)) (wire : σ → Wire) (form : PageForm α)
    (ask : Option String → PreparedRequest) (run : StateM σ (Except ApiError (List α))) :
    Prop where
  whole : ∀ (continued : List (Fetch α)) (last : Fetch α) (rest : Stream' Answer) (s : σ),
    (∀ page ∈ continued ++ [last], page.Served client.maxRetries form) →
    (∀ page ∈ continued, page.Continues) → last.more = false →
    continued.length < client.maxPages →
    (wire s).pending = (continued ++ [last]).flatMap Fetch.answers ++ₛ rest →
      ∃ s', run s = (.ok ((continued ++ [last]).flatMap Fetch.items), s') ∧
        wire s' = ⟨rest, (wire s).received ++ Fetch.asked ask none (continued ++ [last])⟩
  spoilt : ∀ (continued : List (Fetch α)) (rest : Stream' Answer) (s : σ),
    (∀ page ∈ continued, page.Served client.maxRetries form) →
    (∀ page ∈ continued, page.Continues) →
    Denies client.maxRetries form rest →
    (wire s).pending = continued.flatMap Fetch.answers ++ₛ rest →
      ∃ error, (run s).1 = .error error

/-- The request for the page of a query at a cursor. -/
def queryRequest (client : Client (StateM σ)) (target : Url) (properties : Option (List String))
    (filter : Option Json) (cursor : Option String) : PreparedRequest where
  method := "POST"
  url := { target with
    query := target.query ++ (properties.getD []).map fun id => ("filter_properties", id) }
  headers :=
    [("Authorization", trimmed ("Bearer " ++ client.token)),
      ("Notion-Version", trimmed client.version), ("Content-Type", "application/json")]
  body := some (.object ((filter.map fun filter => ("filter", filter)).toList ++
    [("page_size", .integer client.pageSize)] ++
    (cursor.map fun cursor => ("start_cursor", .string cursor)).toList))

/-- The request for the page of items at a cursor. -/
def itemsRequest (client : Client (StateM σ)) (target : Url) (cursor : Option String) :
    PreparedRequest where
  method := "GET"
  url := { target with
    query := target.query ++ [("page_size", toString client.pageSize)] ++
      (cursor.map fun cursor => ("start_cursor", cursor)).toList }
  headers :=
    [("Authorization", trimmed ("Bearer " ++ client.token)),
      ("Notion-Version", trimmed client.version)]
  body := none

section

variable {form : PageForm α} {url : String}
  {fetch : Option String → StateM σ (Except ApiError (ListPage × List α))}

theorem FetchesOver.faithful {ask : Option String → PreparedRequest}
    (hf : client.FetchesOver wire form ask fetch) (ht : client.TalksOver wire) :
    client.Faithful wire form ask (client.follow url fetch client.maxPages none []) where
  whole := by
    intro continued last rest s hserved hc hlast hpages hs
    have hends : ¬last.Continues := Fetch.not_continues_iff.mpr (.inl hlast)
    exact hf.follow_whole ht hserved hc hends hpages hs none []
  spoilt := by
    intro continued rest s hserved hc hd hs
    exact hf.follow_spoilt ht hserved hc hd hs client.maxPages none []

/-- Pages that can be fetched only where requests can be sent make up the lists that are handed
over. -/
theorem handsOver_follow (ht : client.TalksOver wire)
    (hf : ∀ target, client.Reaches url target → ∃ ask, client.FetchesOver wire form ask fetch)
    (hunsent : (¬∃ target, client.Reaches url target) →
      ∀ cursor s, ∃ error, (fetch cursor s).1 = .error error) :
    client.HandsOver wire url form (client.follow url fetch client.maxPages none []) := by
  intro s items rest
  constructor
  · rintro ⟨hitems, hrest⟩
    by_cases hr : ∃ target, client.Reaches url target
    · obtain ⟨target, htarget⟩ := hr
      obtain ⟨ask, hf⟩ := hf target htarget
      obtain ⟨continued, last, rest', hpages, hs, hserved, hc, hlast⟩ :=
        hf.whole_of_follow ht hitems
      obtain ⟨s', hs', hw⟩ := hf.follow_whole ht hserved hc hlast hpages hs none []
      rw [hs'] at hitems hrest
      rw [hw] at hrest
      cases hitems
      cases hrest
      exact ⟨⟨target, htarget⟩, continued, last, hpages, hs, hserved, hc,
        Fetch.not_continues_iff.mp hlast, rfl⟩
    · obtain ⟨error, herror⟩ := follow_error (hunsent hr none s) client.maxPages []
      rw [herror] at hitems
      cases hitems
  · rintro ⟨⟨target, htarget⟩, continued, last, hpages, hs, hserved, hc, hlast, rfl⟩
    obtain ⟨ask, hf⟩ := hf target htarget
    obtain ⟨s', hs', hw⟩ := hf.follow_whole ht hserved hc (Fetch.not_continues_iff.mpr hlast)
      hpages hs none []
    rw [hs', hw]
    exact ⟨rfl, rfl⟩

end

theorem fetchesOver_query (ht : client.TalksOver wire) {url : String} {target : Url}
    (hr : client.Reaches url target) (collection : String) (properties : Option (List String))
    (filter : Option Json) :
    client.FetchesOver wire IsRecordPage (client.queryRequest target properties filter)
      (client.queryPage collection url
        ((properties.getD []).map fun id => ("filter_properties", id)) filter) := by
  have hask : client.queryRequest target properties filter = fun cursor =>
      client.arrival "POST" target ((properties.getD []).map fun id => ("filter_properties", id))
        (some (client.queryBody filter cursor)) := by
    funext cursor
    cases filter <;> cases cursor <;> rfl
  rw [hask]
  exact ht.fetchesOver hr ListPage.reads_records (fun _ s => ht.log _ s) "POST" _ _ _

theorem fetchesOver_items (ht : client.TalksOver wire) {url : String} {target : Url}
    (hr : client.Reaches url target) :
    client.FetchesOver wire IsItemPage (client.itemsRequest target) (client.itemPage url) := by
  have hask : client.itemsRequest target = fun cursor =>
      client.arrival "GET" target (("page_size", toString client.pageSize) ::
        (cursor.map fun cursor => ("start_cursor", cursor)).toList) none := by
    funext cursor
    rw [itemsRequest, arrival, List.append_assoc]
    rfl
  rw [hask]
  exact ht.fetchesOver hr ListPage.reads_items (fun _ _ => rfl) "GET" _ _ _

/-- Both kinds of lists are handed over page by page. A list of records ends at a page that says
that there are no more, or that says that there are and not where; so does a list of items, which
also ends at a response that is no list. -/
theorem handsOver_lists (ht : client.TalksOver wire) :
    (∀ (collection : String) (properties : Option (List String)) (filter : Option Json),
      client.HandsOver wire (client.baseUrl ++ "/databases/" ++ collection ++ "/query")
        IsRecordPage (client.query collection properties filter)) ∧
    ∀ record property : String,
      client.HandsOver wire (client.baseUrl ++ "/pages/" ++ record ++ "/properties/" ++ property)
        IsItemPage (client.items record property) := by
  constructor
  · intro collection properties filter
    rw [query, queryPages_eq]
    exact handsOver_follow ht
      (fun target hr => ⟨_, fetchesOver_query ht hr collection properties filter⟩)
      fun hr cursor s => ⟨_, readPage_error (send_unsent hr _ _ _ s) _ _ _⟩
  · intro record property
    rw [items, itemPages_eq]
    exact handsOver_follow ht (fun target hr => ⟨_, fetchesOver_items ht hr⟩)
      fun hr cursor s => ⟨_, readPage_error (send_unsent hr _ _ _ s) _ _ _⟩

theorem exact_results (id : String) :
    (Json.array [.object [("id", .string id)]]).Exact 1 :=
  ⟨by decide, ⟨by decide, List.pairwise_singleton _ _, trivial, trivial⟩, trivial⟩

/-- A page that says that there are more records, and not where. -/
def looseValue : Json :=
  .object [("has_more", .bool true), ("results", .array [.object [("id", .string "a")]])]

/-- The page as it is fetched. -/
def loosePage : Fetch Record :=
  ⟨[], ⟨200, looseValue.pretty⟩, [⟨"a", none, none, []⟩], true, none⟩

theorem served_loosePage : loosePage.Served 1 IsRecordPage where
  transient := nofun
  patient := Nat.zero_le 1
  page := by
    have hexact : looseValue.Exact 0 := by
      refine ⟨by decide, ?_, trivial, exact_results "a", trivial⟩
      rw [Fields.Sorted]
      decide
    exact ⟨looseValue, .of_exact hexact, [.object [("id", .string "a")]],
      .named rfl (.said true) .unsaid, .cons rfl .nil⟩

/-- The page is handed over as the whole list. -/
theorem handsOver_lists_loosePage :
    wired.TalksOver id ∧ loosePage.Served wired.maxRetries IsRecordPage ∧ loosePage.more = true ∧
      (wired.query "c1" none none
        ⟨loosePage.answers ++ₛ Stream'.const (.error "closed"), []⟩).1 =
          .ok [⟨"a", none, none, []⟩] := by
  refine ⟨talksOver_wired, served_loosePage, rfl, ?_⟩
  refine (((handsOver_lists talksOver_wired).1 "c1" none none _ _ (.const (.error "closed"))).mpr
    ⟨⟨_, reaches_collection⟩, [], loosePage, by decide, rfl, ?_, nofun, .inr rfl, rfl⟩).1
  exact fun page hp => List.mem_singleton.mp hp ▸ served_loosePage

/-- Both kinds of lists are fetched faithfully, at any url to which requests can be sent. -/
theorem faithful_lists (ht : client.TalksOver wire) :
    (∀ (collection : String) (properties : Option (List String)) (filter : Option Json)
        (target : Url),
      client.Reaches (client.baseUrl ++ "/databases/" ++ collection ++ "/query") target →
        client.Faithful wire IsRecordPage (client.queryRequest target properties filter)
          (client.query collection properties filter)) ∧
    ∀ (record property : String) (target : Url),
      client.Reaches (client.baseUrl ++ "/pages/" ++ record ++ "/properties/" ++ property) target →
        client.Faithful wire IsItemPage (client.itemsRequest target)
          (client.items record property) := by
  constructor
  · intro collection properties filter target hr
    rw [query, queryPages_eq]
    exact (fetchesOver_query ht hr collection properties filter).faithful ht
  · intro record property target hr
    rw [items, itemPages_eq]
    exact (fetchesOver_items ht hr).faithful ht

/-- A page that says where the list goes on. -/
def firstValue : Json :=
  .object [("has_more", .bool true), ("next_cursor", .string "k"),
    ("results", .array [.object [("id", .string "a")]])]

/-- The last page. -/
def lastValue : Json :=
  .object [("has_more", .bool false), ("results", .array [.object [("id", .string "b")]])]

/-- The first page as it is fetched. -/
def firstPage : Fetch Record :=
  ⟨[], ⟨200, firstValue.pretty⟩, [⟨"a", none, none, []⟩], true, some "k"⟩

/-- The last page, which comes at the second attempt. -/
def lastPage : Fetch Record :=
  ⟨[.ok ⟨503, "later"⟩], ⟨200, lastValue.pretty⟩, [⟨"b", none, none, []⟩], false, none⟩

theorem served_firstPage : firstPage.Served 1 IsRecordPage where
  transient := nofun
  patient := Nat.zero_le 1
  page := by
    have hexact : firstValue.Exact 0 := by
      refine ⟨by decide, ?_, trivial, trivial, exact_results "a", trivial⟩
      rw [Fields.Sorted]
      decide
    exact ⟨firstValue, .of_exact hexact, [.object [("id", .string "a")]],
      .named rfl (.said true) (.said "k"), .cons rfl .nil⟩

theorem served_lastPage : lastPage.Served 1 IsRecordPage where
  transient := by decide
  patient := Nat.le_refl 1
  page := by
    have hexact : lastValue.Exact 0 := by
      refine ⟨by decide, ?_, trivial, exact_results "b", trivial⟩
      rw [Fields.Sorted]
      decide
    exact ⟨lastValue, .of_exact hexact, [.object [("id", .string "b")]],
      .named rfl (.said false) .unsaid, .cons rfl .nil⟩

/-- What is heard while both pages are fetched, and nothing but closed lines after that. -/
def twoPages : Stream' Answer :=
  (firstPage.answers ++ lastPage.answers) ++ₛ Stream'.const (.error "closed")

/-- The request for the records with one property, whatever they are. -/
def somePage : Option String → PreparedRequest :=
  wired.queryRequest collectionTarget (some ["p1"]) (some (.object []))

/-- Two pages are handed over as one list, and the second is asked for twice at the same cursor. -/
theorem faithful_lists_pages :
    wired.TalksOver id ∧
      wired.Reaches (wired.baseUrl ++ "/databases/" ++ "c1" ++ "/query") collectionTarget ∧
      wired.query "c1" (some ["p1"]) (some (.object [])) ⟨twoPages, []⟩ =
        (.ok [⟨"a", none, none, []⟩, ⟨"b", none, none, []⟩],
          ⟨Stream'.const (.error "closed"),
            [somePage none, somePage (some "k"), somePage (some "k")]⟩) := by
  refine ⟨talksOver_wired, reaches_collection, ?_⟩
  have hserved : ∀ page ∈ [firstPage] ++ [lastPage],
      page.Served wired.maxRetries IsRecordPage :=
    List.forall_mem_cons.mpr ⟨served_firstPage, List.forall_mem_singleton.mpr served_lastPage⟩
  obtain ⟨s', hs', hw⟩ := ((faithful_lists talksOver_wired).1 "c1" (some ["p1"])
    (some (.object [])) collectionTarget reaches_collection).whole [firstPage] lastPage
    (Stream'.const (.error "closed")) ⟨twoPages, []⟩ hserved
    (List.forall_mem_singleton.mpr ⟨rfl, rfl⟩) rfl (by decide) rfl
  rw [hs']
  exact congrArg _ hw

end Client

end RecordWatch
