import RecordWatch.Change
import RecordWatch.Proofs.Rule.Written
import RecordWatch.Proofs.Snapshot.Store

/-! What is written reads back: the records of a snapshot, the rules of a file, and the change sets
that webhooks receive. The printer and the reader of texts differ on some numbers and on values that
are nested too deeply; for a text that is read as the value it was printed from, what is made of the
value is what was written. -/

namespace RecordWatch

/-- The text is read as the value. -/
def Json.ReadFrom (value : Json) (text : String) : Prop :=
  Draft.ofText? text = some (.ofJson value)

theorem Record.listOfText?_of_readFrom {records : List Record} {text : String}
    (hr : (Json.array (records.map Record.toJson)).ReadFrom text)
    (ho : ∀ record ∈ records, record.Ordered) : Record.listOfText? text = some records := by
  rw [Record.listOfText?, hr]
  exact Draft.list?_written fun record hrecord => Record.ofDraft?_ofJson (ho record hrecord)

/-- Ordered records are loaded as they were stored. -/
theorem SnapshotStore.loaded_of_readFrom {records : List Record} {collection : String}
    (hr : (Json.array (records.map Record.toJson)).ReadFrom (Record.listText records))
    (ho : ∀ record ∈ records, record.Ordered) :
    loaded collection (some (bytesOf records)) = .ok records := by
  rw [loaded, bytesOf, fromUTF8?_toUTF8]
  dsimp only
  rw [Record.listOfText?_of_readFrom hr ho]

/-- A rules file that was read is read again from its text. -/
theorem RuleFile.ofText?_of_readFrom {text written : String} {file : RuleFile}
    (h : RuleFile.ofText? text = some file) (hr : (RuleFile.toJson file).ReadFrom written) :
    RuleFile.ofText? written = some file := by
  obtain ⟨draft, -, hdraft⟩ := Option.bind_eq_some_iff.mp h
  rw [RuleFile.ofText?, hr]
  exact RuleFile.ofDraft?_ofJson (RuleFile.readable_of_ofDraft? hdraft)

namespace ChangeSet

/-- The names of the properties ascend, and so do those of every object in their values. -/
def Ordered (change : ChangeSet) : Prop := change.toJson.Ordered

theorem ofJson?_toJson (change : ChangeSet) : ofJson? change.toJson = some change := by
  cases change <;> rfl

/-- The change set of a record in the text that a webhook received. -/
def received? (key text : String) : Option ChangeSet := do
  let value ← (← Draft.ofText? text).toJson?
  ofJson? (← value.field? key)

theorem received?_of_readFrom {key text : String} {change : ChangeSet}
    (hr : (payload key change).ReadFrom text) (ho : change.Ordered) :
    received? key text = some change := by
  have hpayload : (payload key change).Ordered := ⟨List.pairwise_singleton _ _, ho, trivial⟩
  have hfield : (payload key change).field? key = some change.toJson := by
    simp [payload, Json.field?, Fields.get?]
  rw [received?, hr, Option.bind_eq_bind, Option.bind_some, Draft.toJson?_ofJson hpayload]
  simp only [Option.bind_eq_bind, Option.bind_some, hfield, ofJson?_toJson]

end ChangeSet

/-- Whatever is written reads back, as far as its text is read as the value it was printed from:
records that a store saved are loaded, a rules file that was read is read again with the same
collections, and a change set is the one its receiver gets. Saving and loading fail only where an
operation on a file does. -/
theorem reads_written :
    (∀ {ε : Type} (env : Environment ε) (root : String) (settings : Settings) (collection : String)
        (records : List Record) (w : World ε Files),
      (env.store root settings).path collection ≠ settings.rulesPath →
      (∀ record ∈ records, record.Ordered) →
      (Json.array (records.map Record.toJson)).ReadFrom (Record.listText records) →
      ∃ result w', (env.store root settings).save collection records w = (result, w') ∧
        (env.Sound → result = .ok ()) ∧
        (result = .ok () →
          (env.reads ((env.store root settings).path collection) w'.env).1 = true →
          ((env.store root settings).load collection w').1 = .ok records)) ∧
    (∀ (text : String) (file : RuleFile), RuleFile.ofText? text = some file →
      (RuleFile.toJson file).ReadFrom (RuleFile.text file) →
      ∃ again, RuleFile.ofText? (RuleFile.text file) = some again ∧ again = file ∧
        RuleFile.collections again = RuleFile.collections file) ∧
    ∀ (key : String) (change : ChangeSet) (text : String), change.Ordered →
      (ChangeSet.payload key change).ReadFrom text →
      ChangeSet.received? key text = some change := by
  refine ⟨?_, ?_, fun _ _ _ ho hr => ChangeSet.received?_of_readFrom hr ho⟩
  · intro ε env root settings collection records w hp ho hr
    rcases SnapshotStore.save_spec collection records w with
      ⟨w', ⟨hsave, hl⟩ | ⟨hsave, hunsound, -⟩⟩
    · refine ⟨_, w', hsave, fun _ => rfl, fun _ hreads => ?_⟩
      rw [SnapshotStore.load_run env root settings hp, if_pos hreads, hl.held,
        Function.update_self, SnapshotStore.loaded_of_readFrom hr ho]
    · exact ⟨_, w', hsave, fun hs => absurd hs hunsound, fun hok => nomatch hok⟩
  · intro text file h hr
    exact ⟨file, RuleFile.ofText?_of_readFrom h hr, rfl, rfl⟩

/-- A rules file with one rule, given by the positions of its members. -/
def positionalRules : Json :=
  .object [("c-1", .array [.array [.null, .array [], .null, .object [("created", .object [])]]])]

/-- The rules file that this is read as. -/
def createdRules : RuleFile :=
  [("c-1", [⟨none, [], none, .object [("created", .object [])], Actions.nothing⟩])]

/-- A note is loaded as it was saved, the rule is read again, and the change of the note is
received. -/
theorem reads_written_note :
    (∃ result w', ((Environment.answering (fun _ => .ok []) []).store "store"
        ⟨"rules", 3600, 600⟩).save "c-1" [noted "a"] ⟨0, fun _ => none, []⟩ = (result, w') ∧
      result = .ok () ∧
      (((Environment.answering (fun _ => .ok []) []).store "store"
        ⟨"rules", 3600, 600⟩).load "c-1" w').1 = .ok [noted "a"]) ∧
    (∃ again, RuleFile.ofText? (RuleFile.text createdRules) = some again ∧ again = createdRules ∧
      RuleFile.collections again = RuleFile.collections createdRules) ∧
    ChangeSet.received? "n1" (ChangeSet.payload "n1" (.single "Note" (.string "a"))).pretty =
      some (.single "Note" (.string "a")) := by
  obtain ⟨hrecords, hrules, hchanges⟩ := reads_written
  refine ⟨?_, hrules positionalRules.pretty createdRules ?_ ?_, hchanges _ _ _ ?_ ?_⟩
  · have hordered : ∀ record ∈ [noted "a"], record.Ordered := by
      intro record hr
      rw [List.mem_singleton.mp hr]
      exact ⟨List.pairwise_singleton _ _, trivial, trivial⟩
    obtain ⟨result, w', hsave, hok, hload⟩ := hrecords (Environment.answering (fun _ => .ok []) [])
      "store" ⟨"rules", 3600, 600⟩ "c-1" [noted "a"] ⟨0, fun _ => none, []⟩ (by decide) hordered
      (Draft.ofText?_pretty _)
    have hsaved := hok (Environment.sound_answering _ _)
    exact ⟨result, w', hsave, hsaved, hload hsaved rfl⟩
  · rw [RuleFile.ofText?, Draft.ofText?_pretty]
    rfl
  · exact Draft.ofText?_pretty _
  · refine ⟨List.pairwise_singleton _ _, ⟨?_, ?_⟩, trivial⟩
    · exact List.pairwise_pair.mpr (by decide)
    · exact ⟨⟨List.pairwise_singleton _ _, trivial, trivial⟩, ⟨List.Pairwise.nil, trivial⟩, trivial⟩
  · exact Draft.ofText?_pretty _

end RecordWatch
