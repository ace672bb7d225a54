import RecordWatch.Proofs.Rule.Listing
import RecordWatch.Proofs.Trigger.Relevance

/-! Active properties. Comparing only the properties that the triggers of a collection mention fires
the same rules on the same records as comparing more of them: a property outside them adds changes,
or records that changed, but nothing that a trigger reads. -/

namespace RecordWatch

theorem RuleFile.grouped_trigger {file : RuleFile} {collection : Collection}
    (hc : collection ∈ file.collections) {rule : Rule} (hr : rule ∈ collection.rules) :
    rule.trigger.Grouped := by
  rw [rules_of_mem_collections hc] at hr
  exact (forall_mem_numbered 0 (file.entriesOf collection.id)).mpr
    (fun entry _ => Trigger.grouped_ofJson entry.trigger) rule hr

theorem Collection.mentions_active {collection : Collection} {rule : Rule}
    (h : rule ∈ collection.rules) {name : String} (hn : name ∈ rule.trigger.mentions) :
    name ∈ collection.activeProperties :=
  mem_distinct.mpr (List.mem_flatMap.mpr ⟨rule, h, mem_distinct.mpr hn⟩)

/-! ### The verdict on an entry -/

section

variable {σ : Type} (context : Context (StateM σ))

/-- Whether a trigger fires on the change of a record; without a change it does not. -/
def Trigger.firesOn (trigger : Trigger) (record : String) (change : Option ChangeSet) (s : σ) :
    Bool :=
  match change with
  | none => false
  | some change => (trigger.fires context record change s).1

/-- Whether a rule fires on the entry of a record among changes, evaluated in state `s`. -/
def Rule.firesOn (rule : Rule) (changes : Changes) (record : String) (s : σ) : Bool :=
  rule.trigger.firesOn context record (changes.get? record) s

namespace Delta

/-- A trigger cannot tell apart the changes of a record over two lists of properties that both
contain those it mentions. -/
theorem firesOn_ofRecord? {trigger : Trigger} (hg : trigger.Grouped) (old : List Record)
    {active wider : List String} (ha : ∀ name ∈ trigger.mentions, name ∈ active)
    (hw : ∀ name ∈ trigger.mentions, name ∈ wider) (record : Record) (s : σ) :
    trigger.firesOn context record.key (ofRecord? old active record) s =
      trigger.firesOn context record.key (ofRecord? old wider record) s := by
  cases hf : find? old record.key with
  | none => rw [ofRecord?_of_new hf, ofRecord?_of_new hf]
  | some before =>
    have read : ∀ {names : List String}, (∀ name ∈ trigger.mentions, name ∈ names) →
        ∀ name ∈ trigger.mentions, (newValues before.properties record.properties names).get? name =
          (changed? before.properties record.properties name).map Prod.snd := by
      intro names hn name hm
      rw [get?_newValues, if_pos (hn name hm)]
    -- Where nothing changed among names that include those mentioned, none of these has a new value
    -- under any other list either.
    have silent : ∀ {names others : List String}, (∀ name ∈ trigger.mentions, name ∈ names) →
        (∀ name ∈ trigger.mentions, name ∈ others) →
        changedProperties before.properties record.properties names = [] →
        trigger.firesOn context record.key (some (.propertyChanged
          (oldValues before.properties record.properties others)
          (newValues before.properties record.properties others))) s = false := by
      intro names others hn ho hnil
      refine Trigger.fires_of_unmentioned context record.key trigger hg (fun name hm => ?_) s
      rw [read ho name hm, ← read hn name hm, newValues, hnil]
      rfl
    by_cases hca : changedProperties before.properties record.properties active = []
    · rw [ofRecord?_of_unchanged hf hca]
      by_cases hcw : changedProperties before.properties record.properties wider = []
      · rw [ofRecord?_of_unchanged hf hcw]
      · rw [ofRecord?_of_changed hf hcw, silent ha hw hca]
        rfl
    · rw [ofRecord?_of_changed hf hca]
      by_cases hcw : changedProperties before.properties record.properties wider = []
      · rw [ofRecord?_of_unchanged hf hcw, silent hw ha hcw]
        rfl
      · rw [ofRecord?_of_changed hf hcw]
        refine congrArg (fun verdict : StateM σ Bool => (verdict s).1)
          (Trigger.fires_congr context record.key trigger fun name hm => ?_)
        rw [read ha name hm, read hw name hm]

end Delta

/-- A rule of a collection fires on the change of a record over the active properties exactly when
it does over any list of properties that contains them. The context may be any that keeps a state;
in particular its record store may answer as a function of what it is asked. -/
theorem firesOn_activeProperties {file : RuleFile} {collection : Collection}
    (hc : collection ∈ file.collections) {rule : Rule} (hr : rule ∈ collection.rules)
    (old : List Record) {latest : List Record} (hd : (latest.map Record.key).Nodup)
    {wider : List String} (hw : ∀ name ∈ collection.activeProperties, name ∈ wider)
    (record : String) (s : σ) :
    rule.firesOn context (Delta.changes old latest collection.activeProperties) record s =
      rule.firesOn context (Delta.changes old latest wider) record s := by
  rw [Rule.firesOn, Rule.firesOn]
  by_cases hm : record ∈ latest.map Record.key
  · obtain ⟨r, hrl, rfl⟩ := List.mem_map.mp hm
    rw [Delta.get?_changes_of_mem old _ hd hrl, Delta.get?_changes_of_mem old _ hd hrl]
    have hactive : ∀ name ∈ rule.trigger.mentions, name ∈ collection.activeProperties :=
      fun name => Collection.mentions_active hr
    exact Delta.firesOn_ofRecord? context (RuleFile.grouped_trigger hc hr) old hactive
      (fun name hn => hw name (hactive name hn)) r s
  · rw [Delta.get?_changes_of_not_mem old _ hm, Delta.get?_changes_of_not_mem old _ hm]

end

/-- A rule whose trigger nests a condition on the status and a malformed node in groups. -/
def doneEntry : RuleEntry where
  uid := none
  filterProperties := []
  contentFilter := none
  trigger := .object [("or", .array [.null, .object [("and", .array [.object [("property",
    .string "Status"), ("select", .object [("equals", .string "Done")])]])]])]
  actions := .nothing

/-- A collection with that rule. -/
def doneCollection : Collection := ⟨"c1", [doneEntry.toRule 0]⟩

/-- A record with a status and a note. -/
def page (status note : String) : Record where
  id := "p-1"
  createdTime := none
  lastEditedTime := none
  properties := [("Note", .string note), ("Status", .object [("type", .string "select"),
    ("select", .object [("name", .string status)])])]

/-- A context that has no items and logs nothing. -/
def quietContext : Context (StateM Unit) where
  items _ _ := return .ok []
  now := return ⟨default, .utc⟩
  log _ := return ()

/-- Where only the note changed, the record has an entry in the wider comparison alone, and fires in
neither. -/
theorem firesOn_activeProperties_note :
    (doneEntry.toRule 0).firesOn quietContext
        (Delta.changes [page "Done" "a"] [page "Done" "b"]
          doneCollection.activeProperties) "p1" () =
      (doneEntry.toRule 0).firesOn quietContext
        (Delta.changes [page "Done" "a"] [page "Done" "b"] ["Note", "Status"]) "p1" () :=
  firesOn_activeProperties quietContext
    (show doneCollection ∈ RuleFile.collections [("c-1", [doneEntry])] from
      List.mem_singleton.mpr rfl)
    (List.mem_singleton.mpr rfl) [page "Done" "a"]
    (show ([page "Done" "b"].map Record.key).Nodup from List.pairwise_singleton _ _)
    (fun name hn => by
      rw [show doneCollection.activeProperties = ["Status"] from rfl, List.mem_singleton] at hn
      rw [hn]
      exact List.mem_cons_of_mem _ List.mem_cons_self) "p1" ()

end RecordWatch
