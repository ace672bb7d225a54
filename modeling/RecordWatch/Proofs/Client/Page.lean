import RecordWatch.Client
import RecordWatch.Proofs.Json.Drafts

/-! What a page of a list says. A page has entries and may say whether there are more and where they
go on; it says so by the names of its members or by their places. The reader accepts exactly the
values that are pages. -/

namespace RecordWatch

/-! ### Members of ordered values -/

theorem Json.orderedItems_iff {items : List Json} :
    OrderedItems items ↔ ∀ item ∈ items, item.Ordered := by
  induction items with
  | nil => exact iff_of_true trivial nofun
  | cons item rest ih => rw [OrderedItems, List.forall_mem_cons, ih]

namespace Draft

/-- A name stands at most once among ascending fields. -/
theorem filter_ofFields {fields : Fields Json} (h : fields.Sorted) (name : String) :
    (ofFields fields).filter (fun field => field.1 == name) =
      (fields.get? name).toList.map fun value => (name, ofJson value) := by
  induction fields with
  | nil => rfl
  | cons field rest ih =>
    obtain ⟨other, value⟩ := field
    obtain ⟨hother, hrest⟩ := List.pairwise_cons.mp h
    rw [ofFields, List.filter_cons, Fields.get?_cons, ih hrest]
    by_cases heq : other = name
    · subst heq
      have hnone : Fields.get? rest other = none := by
        cases hget : Fields.get? rest other with
        | none => rfl
        | some found =>
          exact absurd (hother _ (Fields.get?_eq_some_mem hget)) (String.lt_irrefl other)
      simp [hnone]
    · simp [heq]

theorem unique?_ofFields {fields : Fields Json} (h : fields.Sorted) (name : String) :
    unique? (ofFields fields) name = some ((fields.get? name).map ofJson) := by
  rw [unique?, filter_ofFields h]
  cases fields.get? name <;> rfl

theorem positional?_map {α β : Type} (f : α → β) (members : List Member) (items : List α) :
    Member.positional? members (items.map f) =
      (Member.positional? members items).map (List.map (Option.map f)) := by
  induction members generalizing items with
  | nil => cases items <;> rfl
  | cons member members ih =>
    cases items with
    | nil =>
      have hrest := ih []
      rw [List.map_nil] at hrest
      rw [List.map_nil, Member.positional?, Member.positional?]
      split
      · rw [hrest]
        cases Member.positional? members ([] : List α) <;> rfl
      · rfl
    | cons item rest =>
      rw [List.map_cons, Member.positional?, Member.positional?, ih rest]
      cases Member.positional? members rest <;> rfl

/-- The members of an ordered value are those of its draft. -/
theorem members?_ofJson {value : Json} (h : value.Ordered) (members : List Member) :
    (ofJson value).members? members =
      (value.members? members).map (List.map (Option.map ofJson)) := by
  cases value with
  | object fields =>
    have hmembers : members.mapM (fun member => unique? (ofFields fields) member.name) =
        some (members.map fun member => (Fields.get? fields member.name).map ofJson) := by
      refine mapM_eq_some_iff.mpr (List.forall₂_map_right_iff.mpr (List.forall₂_same.mpr ?_))
      exact fun member _ => unique?_ofFields h.1 member.name
    rw [ofJson, members?, Json.members?, hmembers, Option.map_some, List.map_map]
    rfl
  | array items => rw [ofJson, members?, Json.members?, ofItems_eq_map, positional?_map]
  | null => rfl
  | bool b => rfl
  | number n => rfl
  | string s => rfl

end Draft

/-! ### Pages -/

/-- Whether a page says that there are more entries; without a word there are none. -/
inductive SaysMore : Option Json → Bool → Prop
  | unsaid : SaysMore none false
  | said (more : Bool) : SaysMore (some (.bool more)) more

/-- Where a page says that its list goes on, if it says so. -/
inductive SaysCursor : Option Json → Option String → Prop
  | unsaid : SaysCursor none none
  | null : SaysCursor (some .null) none
  | said (cursor : String) : SaysCursor (some (.string cursor)) (some cursor)

/-- A value is a page with the entries, which says whether there are more and where they go on. -/
inductive IsPage : Json → List Json → Bool → Option String → Prop
  | named {fields : Fields Json} {entries : List Json} {more : Bool} {cursor : Option String}
      (hentries : fields.get? "results" = some (.array entries))
      (hmore : SaysMore (fields.get? "has_more") more)
      (hcursor : SaysCursor (fields.get? "next_cursor") cursor) :
      IsPage (.object fields) entries more cursor
  | placed {rest entries : List Json} {more : Bool} {cursor : Option String}
      (hlength : rest.length ≤ 2) (hmore : SaysMore rest[0]? more)
      (hcursor : SaysCursor rest[1]? cursor) :
      IsPage (.array (.array entries :: rest)) entries more cursor

theorem saysMore_iff {value : Option Json} {more : Bool} :
    Draft.orElse? false Draft.bool? (value.map Draft.ofJson) = some more ↔ SaysMore value more := by
  constructor
  · intro h
    cases value with
    | none => cases h; exact .unsaid
    | some value =>
      cases value with
      | bool b => cases h; exact .said _
      | _ => cases h
  · rintro (_ | _) <;> rfl

theorem saysCursor_iff {value : Option Json} {cursor : Option String} :
    Draft.optional? Draft.string? (value.map Draft.ofJson) = some cursor ↔
      SaysCursor value cursor := by
  constructor
  · intro h
    cases value with
    | none => cases h; exact .unsaid
    | some value =>
      cases value with
      | null => cases h; exact .null
      | string text => cases h; exact .said text
      | _ => cases h
  · rintro (_ | _ | _) <;> rfl

theorem items?_ofJson {value : Json} {drafts : List Draft} :
    (Draft.ofJson value).items? = some drafts ↔
      ∃ entries, value = .array entries ∧ drafts = Draft.ofItems entries := by
  cases value with
  | array entries =>
    constructor
    · intro h
      cases h
      exact ⟨entries, rfl, rfl⟩
    · rintro ⟨_, heq, rfl⟩
      cases heq
      rfl
  | _ => exact iff_of_false nofun fun ⟨_, heq, _⟩ => nomatch heq

namespace ListPage

/-- What a page of a list is read from; only the list itself must be there. -/
def members : List Member := [⟨"results", false⟩, ⟨"has_more", true⟩, ⟨"next_cursor", true⟩]

theorem isPage_iff_members {value : Json} {entries : List Json} {more : Bool}
    {cursor : Option String} :
    IsPage value entries more cursor ↔ ∃ m c, value.members? members =
      some [some (.array entries), m, c] ∧ SaysMore m more ∧ SaysCursor c cursor := by
  constructor
  · rintro (⟨hentries, hmore, hcursor⟩ | ⟨hlength, hmore, hcursor⟩)
    · exact ⟨_, _, congrArg (fun results => some [results, _, _]) hentries, hmore, hcursor⟩
    · next rest =>
      match rest, hlength with
      | [], _ => exact ⟨none, none, rfl, hmore, hcursor⟩
      | [m], _ => exact ⟨some m, none, rfl, hmore, hcursor⟩
      | [m, c], _ => exact ⟨some m, some c, rfl, hmore, hcursor⟩
  · rintro ⟨m, c, hmembers, hmore, hcursor⟩
    cases value with
    | object fields =>
      obtain ⟨hentries, rfl, rfl⟩ : Fields.get? fields "results" = some (Json.array entries) ∧
          Fields.get? fields "has_more" = m ∧ Fields.get? fields "next_cursor" = c := by
        simpa [Json.members?, members] using hmembers
      exact .named hentries hmore hcursor
    | array items =>
      match items, hmembers with
      | [_], h => cases h; exact .placed (Nat.zero_le 2) hmore hcursor
      | [_, _], h => cases h; exact .placed (Nat.le_succ 1) hmore hcursor
      | [_, _, _], h => cases h; exact .placed (Nat.le_refl 2) hmore hcursor
    | _ => cases hmembers

/-- An ordered value is read as the page that it is. -/
theorem ofJson?_eq_some_iff {value : Json} (h : value.Ordered) (page : ListPage) :
    ofJson? value = some page ↔ ∃ entries, page.results = Draft.ofItems entries ∧
      IsPage value entries page.hasMore page.nextCursor := by
  rw [ofJson?, ← members, Draft.members?_ofJson h]
  constructor
  · intro hread
    obtain ⟨drafts, hdrafts, hread⟩ := Option.bind_eq_some_iff.mp hread
    obtain ⟨found, hfound, rfl⟩ := Option.map_eq_some_iff.mp hdrafts
    match found, hfound, hread with
    | [some results, m, c], hfound, hread =>
      obtain ⟨items, hitems, hread⟩ := Option.bind_eq_some_iff.mp hread
      obtain ⟨more, hmore, hread⟩ := Option.bind_eq_some_iff.mp hread
      obtain ⟨cursor, hcursor, hread⟩ := Option.bind_eq_some_iff.mp hread
      obtain rfl := Option.some.inj hread
      obtain ⟨entries, rfl, rfl⟩ := items?_ofJson.mp hitems
      exact ⟨entries, rfl, isPage_iff_members.mpr
        ⟨m, c, hfound, saysMore_iff.mp hmore, saysCursor_iff.mp hcursor⟩⟩
  · rintro ⟨entries, hresults, hpage⟩
    obtain ⟨m, c, hmembers, hmore, hcursor⟩ := isPage_iff_members.mp hpage
    rw [hmembers]
    have hm := saysMore_iff.mpr hmore
    have hc := saysCursor_iff.mpr hcursor
    have hitems := items?_ofJson.mpr ⟨entries, rfl, hresults⟩
    simp [hm, hc, hitems]

end ListPage

/-! ### Pages of records and of items -/

/-- What a value says as a page: its items, whether there are more, and where they go on. -/
abbrev PageForm (α : Type) := Json → List α → Bool → Option String → Prop

/-- A value is a page of records. -/
def IsRecordPage : PageForm Record := fun value records more cursor =>
  ∃ entries, IsPage value entries more cursor ∧
    List.Forall₂ (fun entry record => Record.ofJson? entry = some record) entries records

/-- What the answer to a request for items says: it is a page of them if it is a list, and else the
only item itself. -/
inductive IsItemPage : PageForm Json
  | list {value : Json} {items : List Json} {more : Bool} {cursor : Option String}
      (hlist : value.field? "object" = some (.string "list"))
      (hpage : IsPage value items more cursor) : IsItemPage value items more cursor
  | single {value : Json} (hlist : value.field? "object" ≠ some (.string "list")) :
      IsItemPage value [value] false none

/-- Only the entries themselves are read as the entries of a page. -/
theorem IsPage.forall₂_toJson?_iff {value : Json} {entries items : List Json} {more : Bool}
    {cursor : Option String} (h : IsPage value entries more cursor) (ho : value.Ordered) :
    List.Forall₂ (fun entry item => (Draft.ofJson entry).toJson? = some item) entries items ↔
      items = entries := by
  have hentries : Json.OrderedItems entries := by
    cases h with
    | named hentries _ _ =>
      exact Json.orderedFields_iff.mp ho.2 _ (Fields.get?_eq_some_mem hentries)
    | placed _ _ _ => exact ho.1
  have hself : List.Forall₂ (fun entry item => (Draft.ofJson entry).toJson? = some item) entries
      entries :=
    List.forall₂_same.mpr fun entry he =>
      Draft.toJson?_ofJson (Json.orderedItems_iff.mp hentries entry he)
  constructor
  · intro hitems
    have hread := mapM_eq_some_iff.mpr hitems
    rw [mapM_eq_some_iff.mpr hself] at hread
    exact (Option.some.inj hread).symm
  · rintro rfl
    exact hself

namespace ListPage

/-- The page of a value, and what `read` makes of its entries. -/
def withEntries? {α : Type} (read : Draft → Option α) (value : Json) :
    Option (ListPage × List α) := do
  let page ← ofJson? value
  return (page, ← page.results.mapM read)

theorem withEntries?_eq_some_iff {α : Type} {read : Draft → Option α} {value : Json}
    (h : value.Ordered) {page : ListPage} {items : List α} :
    withEntries? read value = some (page, items) ↔
      ∃ entries, page.results = Draft.ofItems entries ∧
        IsPage value entries page.hasMore page.nextCursor ∧
        List.Forall₂ (fun entry item => read (.ofJson entry) = some item) entries items := by
  rw [withEntries?, Option.bind_eq_bind, Option.bind_eq_some_iff]
  constructor
  · rintro ⟨_, hpage, hread⟩
    obtain ⟨_, hitems, hread⟩ := Option.bind_eq_some_iff.mp hread
    cases hread
    obtain ⟨entries, hresults, hpage⟩ := (ofJson?_eq_some_iff h page).mp hpage
    rw [hresults, mapM_eq_some_iff, Draft.ofItems_eq_map, List.forall₂_map_left_iff] at hitems
    exact ⟨entries, hresults, hpage, hitems⟩
  · rintro ⟨entries, hresults, hpage, hitems⟩
    have hread : page.results.mapM read = some items := by
      rw [hresults, mapM_eq_some_iff, Draft.ofItems_eq_map, List.forall₂_map_left_iff]
      exact hitems
    refine ⟨page, (ofJson?_eq_some_iff h page).mpr ⟨entries, hresults, hpage⟩, ?_⟩
    rw [hread]
    rfl

/-- The page of a value and the items on it; a value that is no list is the only item. -/
def withItems? (value : Json) : Option (ListPage × List Json) :=
  if (value.field? "object").bind Json.string? = some "list" then
    withEntries? Draft.toJson? value
  else some (⟨[], false, none⟩, [value])

/-- The reader accepts the values of a form, and reads what they say. -/
def Reads {α : Type} (read : Json → Option (ListPage × List α)) (form : PageForm α) : Prop :=
  ∀ value : Json, value.Ordered → ∀ items more cursor, form value items more cursor ↔
    ∃ page, read value = some (page, items) ∧ page.hasMore = more ∧ page.nextCursor = cursor

theorem Reads.eq_none {α : Type} {read : Json → Option (ListPage × List α)} {form : PageForm α}
    (h : Reads read form) {value : Json} (ho : value.Ordered)
    (hno : ∀ items more cursor, ¬form value items more cursor) : read value = none := by
  cases hread : read value with
  | none => rfl
  | some found =>
    exact absurd ((h value ho found.2 _ _).mpr ⟨found.1, hread, rfl, rfl⟩) (hno _ _ _)

theorem reads_records : Reads (withEntries? Record.ofDraft?) IsRecordPage := by
  intro value ho records more cursor
  constructor
  · rintro ⟨entries, hpage, hrecords⟩
    exact ⟨⟨Draft.ofItems entries, more, cursor⟩,
      (withEntries?_eq_some_iff ho).mpr ⟨entries, rfl, hpage, hrecords⟩, rfl, rfl⟩
  · rintro ⟨page, hread, rfl, rfl⟩
    obtain ⟨entries, -, hpage, hrecords⟩ := (withEntries?_eq_some_iff ho).mp hread
    exact ⟨entries, hpage, hrecords⟩

theorem isList_iff {value : Json} : (value.field? "object").bind Json.string? = some "list" ↔
    value.field? "object" = some (.string "list") := by
  rw [Option.bind_eq_some_iff]
  constructor
  · rintro ⟨found, hfound, hstring⟩
    cases found with
    | string text => cases hstring; exact hfound
    | _ => cases hstring
  · exact fun h => ⟨_, h, rfl⟩

theorem reads_items : Reads withItems? IsItemPage := by
  intro value ho items more cursor
  rw [withItems?]
  by_cases hlist : value.field? "object" = some (.string "list")
  · rw [if_pos (isList_iff.mpr hlist)]
    constructor
    · rintro (⟨-, hpage⟩ | hsingle)
      · have hitems := (hpage.forall₂_toJson?_iff ho).mpr rfl
        exact ⟨⟨Draft.ofItems items, more, cursor⟩,
          (withEntries?_eq_some_iff ho).mpr ⟨items, rfl, hpage, hitems⟩, rfl, rfl⟩
      · exact absurd hlist hsingle
    · rintro ⟨page, hread, rfl, rfl⟩
      obtain ⟨entries, -, hpage, hitems⟩ := (withEntries?_eq_some_iff ho).mp hread
      obtain rfl := (hpage.forall₂_toJson?_iff ho).mp hitems
      exact .list hlist hpage
  · rw [if_neg (mt isList_iff.mp hlist)]
    constructor
    · rintro (⟨hlist', -⟩ | -)
      · exact absurd hlist' hlist
      · exact ⟨_, rfl, rfl, rfl⟩
    · rintro ⟨page, hread, rfl, rfl⟩
      cases hread
      exact .single hlist

end ListPage

end RecordWatch
