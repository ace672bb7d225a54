import RecordWatch.Identifier
import RecordWatch.Json.Printer
import RecordWatch.Json.Reader
import RecordWatch.Trigger.Reader

/-! Rules: what to watch for in a collection and what to do when it happens. The rules file maps
ids of collections to lists of rules; entries whose ids differ only in dashes are one collection,
and a rule without an id is called by its position there. -/

namespace RecordWatch

/-- An email to send; the change is appended to its body. -/
structure EmailAction where
  recipients : List String
  subject : String
  body : Option String

/-- What a rule does when it fires. -/
structure Actions where
  webhooks : List String
  scripts : List String
  emails : List EmailAction

/-- A rule as it is written, with its trigger unread. -/
structure RuleEntry where
  uid : Option String
  filterProperties : List String
  contentFilter : Option Json
  trigger : Json
  actions : Actions

/-- The rules file: rules by the written ids of their collections. -/
abbrev RuleFile := Fields (List RuleEntry)

/-- A rule in force. -/
structure Rule where
  uid : String
  trigger : Trigger
  actions : Actions
  filterProperties : List String
  contentFilter : Option Json

/-- The rules that watch one collection. -/
structure Collection where
  id : String
  rules : List Rule

namespace EmailAction

/-- The email of a draft. -/
def ofDraft? (draft : Draft) : Option EmailAction := do
  match ← draft.members? [⟨"to", false⟩, ⟨"subject", false⟩, ⟨"body", true⟩] with
  | [some recipients, some subject, body] =>
    return {
      recipients := ← recipients.list? Draft.string?
      subject := ← subject.string?
      body := ← Draft.optional? Draft.string? body }
  | _ => none

/-- The written form of an email. -/
def toJson (email : EmailAction) : Json :=
  .object ([("to", Json.strings email.recipients), ("subject", .string email.subject)] ++
    Json.optionalField "body" (email.body.map .string))

end EmailAction

namespace Actions

/-- No actions. -/
def nothing : Actions := ⟨[], [], []⟩

/-- Whether there is nothing to do. -/
def isEmpty (a : Actions) : Bool := a.webhooks.isEmpty && a.scripts.isEmpty && a.emails.isEmpty

/-- The actions of a draft. -/
def ofDraft? (draft : Draft) : Option Actions := do
  match ← draft.members? [⟨"webhook", true⟩, ⟨"subprocess", true⟩, ⟨"email", true⟩] with
  | [webhooks, scripts, emails] =>
    return {
      webhooks := ← Draft.orElse? [] (Draft.list? Draft.string?) webhooks
      scripts := ← Draft.orElse? [] (Draft.list? Draft.string?) scripts
      emails := ← Draft.orElse? [] (Draft.list? EmailAction.ofDraft?) emails }
  | _ => none

/-- A field that holds a list, left out when the list is empty. -/
def listField (name : String) : List Json → Fields Json
  | [] => []
  | item :: rest => [(name, .array (item :: rest))]

/-- The written form of actions. -/
def toJson (a : Actions) : Json :=
  .object (listField "webhook" (a.webhooks.map .string) ++
    listField "subprocess" (a.scripts.map .string) ++
    listField "email" (a.emails.map EmailAction.toJson))

end Actions

namespace RuleEntry

/-- The rule of a draft; only the trigger has to be there. -/
def ofDraft? (draft : Draft) : Option RuleEntry := do
  match ← draft.members?
    [⟨"uid", true⟩, ⟨"filter_properties", true⟩, ⟨"content_filter", true⟩, ⟨"trigger", false⟩,
      ⟨"action", true⟩] with
  | [uid, properties, filter, some trigger, action] =>
    return {
      uid := ← Draft.optional? Draft.string? uid
      filterProperties := ← Draft.orElse? [] (Draft.list? Draft.string?) properties
      contentFilter := ← Draft.optional? Draft.toJson? filter
      trigger := ← trigger.toJson?
      actions := ← Draft.orElse? Actions.nothing Actions.ofDraft? action }
  | _ => none

/-- The written form of a rule. -/
def toJson (entry : RuleEntry) : Json :=
  .object (Json.optionalField "uid" (entry.uid.map .string) ++
    Actions.listField "filter_properties" (entry.filterProperties.map .string) ++
    Json.optionalField "content_filter" entry.contentFilter ++
    [("trigger", entry.trigger), ("action", entry.actions.toJson)])

/-- The rule in force at a position of its collection. -/
def toRule (entry : RuleEntry) (index : Nat) : Rule where
  uid := entry.uid.getD ("rule-" ++ toString index)
  trigger := Trigger.ofJson entry.trigger
  actions := entry.actions
  filterProperties := entry.filterProperties
  contentFilter := entry.contentFilter

end RuleEntry

namespace RuleFile

/-- The rules file of a draft. -/
def ofDraft? (draft : Draft) : Option RuleFile := draft.map? (Draft.list? RuleEntry.ofDraft?)

/-- The rules file of a text. -/
def ofText? (text : String) : Option RuleFile := do ofDraft? (← Draft.ofText? text)

/-- The text of a rules file. -/
def text (file : RuleFile) : String :=
  (Json.object (file.mapValues fun entries => .array (entries.map RuleEntry.toJson))).pretty

/-- The rules of a collection followed by the rules of more entries. -/
def extend (rules : List Rule) (entries : List RuleEntry) : List Rule :=
  entries.foldl (fun rules entry => rules ++ [entry.toRule rules.length]) rules

/-- The rules of a file by the plain ids of their collections. -/
def merged (file : RuleFile) : Fields (List Rule) :=
  file.foldl (fun (collections : Fields (List Rule)) (id, entries) =>
    let rules := (collections.get? (plainId id)).getD []
    collections.put (plainId id) (extend rules entries)) []

/-- The collections that a file watches, sorted by id. -/
def collections (file : RuleFile) : List Collection :=
  file.merged.map fun (id, rules) => ⟨id, rules⟩

end RuleFile

namespace Collection

/-- The properties that the triggers of a collection read. -/
def activeProperties (c : Collection) : List String :=
  distinct (c.rules.flatMap fun rule => rule.trigger.properties)

/-- The ids of the properties to fetch, or none to fetch all of them. -/
def filterProperties (c : Collection) : Option (List String) :=
  match distinct (c.rules.flatMap Rule.filterProperties) with
  | [] => none
  | id :: rest => some (id :: rest)

end Collection

end RecordWatch
