import RecordWatch.Proofs.Json.Drafts
import RecordWatch.Rule

/-! Rules as they are written. Reading a rules file yields rules whose filter is not null and whose
raw values are ordered. Such rules are read from their written form as they were, whatever of them
is left out there: an id or a filter that is missing, a list that is empty, a body of an email. -/

namespace RecordWatch

/-! ### Reading what was written -/

theorem EmailAction.ofDraft?_ofJson (email : EmailAction) :
    ofDraft? (.ofJson email.toJson) = some email := by
  obtain ⟨recipients, subject, body⟩ := email
  have hmembers : (Draft.ofJson (toJson ⟨recipients, subject, body⟩)).members?
      [⟨"to", false⟩, ⟨"subject", false⟩, ⟨"body", true⟩] =
      some [some (.ofJson (Json.strings recipients)), some (.string subject),
        body.map .string] := by
    cases body <;> rfl
  have hbody : Draft.optional? Draft.string? (body.map .string) = some body := by
    cases body <;> rfl
  rw [ofDraft?, hmembers]
  simp only [Option.bind_eq_bind, Option.bind_some, hbody, Draft.list?_strings]
  rfl

namespace Actions

/-- The draft of a list that is left out when it is empty. -/
def listDraft? : List Json → Option Draft
  | [] => none
  | item :: rest => some (.ofJson (.array (item :: rest)))

/-- An empty list is what a list that is left out is read as. -/
theorem orElse?_listDraft? {α : Type} {read : Draft → Option α} {write : α → Json}
    {values : List α} (h : ∀ value ∈ values, read (.ofJson (write value)) = some value) :
    Draft.orElse? [] (Draft.list? read) (listDraft? (values.map write)) = some values := by
  cases values with
  | nil => rfl
  | cons value values => exact Draft.list?_written h

theorem ofDraft?_ofJson (actions : Actions) :
    ofDraft? (.ofJson actions.toJson) = some actions := by
  obtain ⟨webhooks, scripts, emails⟩ := actions
  have hmembers : (Draft.ofJson (toJson ⟨webhooks, scripts, emails⟩)).members?
      [⟨"webhook", true⟩, ⟨"subprocess", true⟩, ⟨"email", true⟩] =
      some [listDraft? (webhooks.map .string), listDraft? (scripts.map .string),
        listDraft? (emails.map EmailAction.toJson)] := by
    cases webhooks <;> cases scripts <;> cases emails <;> rfl
  have htexts : ∀ texts : List String,
      Draft.orElse? [] (Draft.list? Draft.string?) (listDraft? (texts.map .string)) = some texts :=
    fun _ => orElse?_listDraft? fun _ _ => rfl
  have hemails : Draft.orElse? [] (Draft.list? EmailAction.ofDraft?)
      (listDraft? (emails.map EmailAction.toJson)) = some emails :=
    orElse?_listDraft? fun email _ => EmailAction.ofDraft?_ofJson email
  rw [ofDraft?, hmembers]
  simp only [Option.bind_eq_bind, Option.bind_some, htexts, hemails]
  rfl

end Actions

namespace RuleEntry

/-- The rule may have been read: a filter is not null, and raw values are ordered. -/
structure Readable (entry : RuleEntry) : Prop where
  filter {filter : Json} (h : entry.contentFilter = some filter) : filter ≠ .null ∧ filter.Ordered
  trigger : entry.trigger.Ordered

theorem ofDraft?_ofJson {entry : RuleEntry} (h : entry.Readable) :
    ofDraft? (.ofJson entry.toJson) = some entry := by
  obtain ⟨uid, properties, filter, trigger, actions⟩ := entry
  have hmembers : (Draft.ofJson (toJson ⟨uid, properties, filter, trigger, actions⟩)).members?
      [⟨"uid", true⟩, ⟨"filter_properties", true⟩, ⟨"content_filter", true⟩, ⟨"trigger", false⟩,
        ⟨"action", true⟩] =
      some [uid.map .string, Actions.listDraft? (properties.map .string), filter.map .ofJson,
        some (.ofJson trigger), some (.ofJson actions.toJson)] := by
    cases uid <;> cases properties <;> cases filter <;> rfl
  have huid : Draft.optional? Draft.string? (uid.map .string) = some uid := by
    cases uid <;> rfl
  have hfilter : Draft.optional? Draft.toJson? (filter.map .ofJson) = some filter :=
    Draft.optional?_written fun _ hv => h.filter hv
  have hproperties : Draft.orElse? [] (Draft.list? Draft.string?)
      (Actions.listDraft? (properties.map .string)) = some properties :=
    Actions.orElse?_listDraft? fun _ _ => rfl
  have hactions : Draft.orElse? Actions.nothing Actions.ofDraft? (some (.ofJson actions.toJson)) =
      some actions := Actions.ofDraft?_ofJson actions
  rw [ofDraft?, hmembers]
  simp only [Option.bind_eq_bind, Option.bind_some, huid, hproperties, hfilter,
    Draft.toJson?_ofJson h.trigger, hactions]
  rfl

/-- A rule that was read may have been. -/
theorem readable_of_ofDraft? {draft : Draft} {entry : RuleEntry}
    (h : ofDraft? draft = some entry) : entry.Readable := by
  obtain ⟨members, -, h⟩ := Option.bind_eq_some_iff.mp h
  split at h
  · next uid properties filter trigger action =>
    obtain ⟨uid, -, h⟩ := Option.bind_eq_some_iff.mp h
    obtain ⟨properties, -, h⟩ := Option.bind_eq_some_iff.mp h
    obtain ⟨contentFilter, hfilter, h⟩ := Option.bind_eq_some_iff.mp h
    obtain ⟨raw, htrigger, h⟩ := Option.bind_eq_some_iff.mp h
    obtain ⟨actions, -, h⟩ := Option.bind_eq_some_iff.mp h
    cases h
    refine ⟨?_, Draft.ordered_of_toJson? htrigger⟩
    rintro value rfl
    exact Draft.ordered_of_optional? hfilter
  · cases h

end RuleEntry

namespace RuleFile

/-- The written form of a rules file. -/
def toJson (file : RuleFile) : Json :=
  .object (file.mapValues fun entries => .array (entries.map RuleEntry.toJson))

/-- The text of a rules file is that of its written form. -/
theorem text_eq (file : RuleFile) : text file = (toJson file).pretty := rfl

/-- The rules file may have been read. -/
structure Readable (file : RuleFile) : Prop where
  sorted : file.Sorted
  entries {id : String} {entries : List RuleEntry} (h : (id, entries) ∈ file) :
    ∀ entry ∈ entries, entry.Readable

theorem readable_of_ofDraft? {draft : Draft} {file : RuleFile} (h : ofDraft? draft = some file) :
    Readable file := by
  cases draft with
  | object fields =>
    obtain ⟨values, hvalues, h⟩ := Option.bind_eq_some_iff.mp h
    cases h
    refine ⟨Fields.sorted_ofList values, fun {id entries} hmem entry hentry => ?_⟩
    obtain ⟨⟨name, list⟩, -, hone⟩ := exists_of_mem_mapM hvalues (Fields.mem_ofList hmem)
    obtain ⟨read, hlist, heq⟩ := Option.bind_eq_some_iff.mp hone
    cases heq
    obtain ⟨items, -, hitems⟩ := Option.bind_eq_some_iff.mp hlist
    obtain ⟨item, -, hitem⟩ := exists_of_mem_mapM hitems hentry
    exact RuleEntry.readable_of_ofDraft? hitem
  | null => cases h
  | bool b => cases h
  | number n => cases h
  | string s => cases h
  | array items => cases h
  | unreadable => cases h

theorem ofDraft?_ofJson {file : RuleFile} (h : Readable file) :
    ofDraft? (.ofJson (toJson file)) = some file :=
  Draft.map?_written h.sorted fun _ hentries =>
    Draft.list?_written fun entry hentry =>
      RuleEntry.ofDraft?_ofJson (h.entries hentries entry hentry)

end RuleFile

end RecordWatch
