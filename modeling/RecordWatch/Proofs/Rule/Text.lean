import RecordWatch.Proofs.Json.Parsing
import RecordWatch.Proofs.Rule.Listing
import RecordWatch.Proofs.Rule.Written

/-! Rules files read back. The text of a rules file is read rule by rule: ids, lists and actions
come back as they were, and a rule is the same as before exactly if it is so alone in a file. Such
a rule is legible; exact raw values and a filter that is not null make it so. -/

namespace RecordWatch

namespace Json

/-- Printed inside `depth` containers, the value is read as its own draft. -/
def Kept (depth : Nat) (value : Json) : Prop := value.redraft depth = .ofJson value

theorem kept_array {depth : Nat} (hd : depth < Awaiting.maxDepth) {items : List Json}
    (h : ∀ item ∈ items, item.Kept (depth + 1)) : (Json.array items).Kept depth := by
  have hitems : redraftItems (depth + 1) items = Draft.ofItems items := by
    rw [redraftItems_eq, Draft.ofItems_eq_map]
    exact List.map_congr_left h
  rw [Kept, redraft, if_pos hd, hitems, Draft.ofJson]

theorem kept_object {depth : Nat} (hd : depth < Awaiting.maxDepth) {fields : List (String × Json)}
    (h : ∀ field ∈ fields, field.2.Kept (depth + 1)) : (Json.object fields).Kept depth := by
  have hfields : redraftFields (depth + 1) fields = Draft.ofFields fields := by
    rw [redraftFields_eq, Draft.ofFields_eq_map]
    exact List.map_congr_left fun field hfield => congrArg (field.1, ·) (h field hfield)
  rw [Kept, redraft, if_pos hd, hfields, Draft.ofJson]

theorem kept_strings {depth : Nat} (hd : depth < Awaiting.maxDepth) (texts : List String) :
    (strings texts).Kept depth := by
  refine kept_array hd fun item hitem => ?_
  obtain ⟨text, -, rfl⟩ := List.mem_map.mp hitem
  rfl

end Json

theorem EmailAction.kept_toJson (email : EmailAction) : email.toJson.Kept 5 := by
  refine Json.kept_object (by decide) fun field hfield => ?_
  rcases List.mem_append.mp hfield with hfield | hfield
  · rcases List.mem_pair.mp hfield with rfl | rfl
    · exact Json.kept_strings (by decide) _
    · rfl
  · cases hbody : email.body with
    | none =>
      rw [hbody] at hfield
      cases hfield
    | some body =>
      rw [hbody] at hfield
      rw [List.mem_singleton.mp hfield]
      rfl

namespace Actions

theorem kept_of_mem_listField {items : List Json} {name : String}
    (h : ∀ item ∈ items, item.Kept 5) {field : String × Json}
    (hfield : field ∈ listField name items) : field.2.Kept 4 := by
  cases items with
  | nil => cases hfield
  | cons item rest =>
    rw [List.mem_singleton.mp hfield]
    exact Json.kept_array (by decide) h

theorem kept_toJson (actions : Actions) : actions.toJson.Kept 3 := by
  have htexts : ∀ texts : List String, ∀ item ∈ texts.map Json.string, item.Kept 5 := by
    intro texts item hitem
    obtain ⟨text, -, rfl⟩ := List.mem_map.mp hitem
    rfl
  have hemails : ∀ item ∈ actions.emails.map EmailAction.toJson, item.Kept 5 := by
    intro item hitem
    obtain ⟨email, -, rfl⟩ := List.mem_map.mp hitem
    exact email.kept_toJson
  refine Json.kept_object (by decide) fun field hfield => ?_
  rcases List.mem_append.mp hfield with hfield | hfield
  · rcases List.mem_append.mp hfield with hfield | hfield
    · exact kept_of_mem_listField (htexts _) hfield
    · exact kept_of_mem_listField (htexts _) hfield
  · exact kept_of_mem_listField hemails hfield

end Actions

namespace RuleEntry

/-- What the text of a rule in a file is read as. -/
def reread? (entry : RuleEntry) : Option RuleEntry := do
  let contentFilter ← Draft.optional? Draft.toJson? (entry.contentFilter.map (Json.redraft 3))
  let trigger ← (entry.trigger.redraft 3).toJson?
  return { entry with contentFilter, trigger }

theorem ofDraft?_redraft (entry : RuleEntry) :
    ofDraft? (entry.toJson.redraft 2) = entry.reread? := by
  obtain ⟨uid, properties, filter, trigger, actions⟩ := entry
  have hmembers : ((toJson ⟨uid, properties, filter, trigger, actions⟩).redraft 2).members?
      [⟨"uid", true⟩, ⟨"filter_properties", true⟩, ⟨"content_filter", true⟩, ⟨"trigger", false⟩,
        ⟨"action", true⟩] =
      some [uid.map .string, Actions.listDraft? (properties.map .string),
        filter.map (Json.redraft 3), some (trigger.redraft 3), some (.ofJson actions.toJson)] := by
    rw [← show actions.toJson.redraft 3 = _ from actions.kept_toJson]
    cases properties with
    | nil => cases uid <;> cases filter <;> rfl
    | cons property rest =>
      rw [show Actions.listDraft? _ = some (.ofJson (Json.strings (property :: rest))) from rfl,
        ← show (Json.strings (property :: rest)).redraft 3 = _ from Json.kept_strings (by decide) _]
      cases uid <;> cases filter <;> rfl
  have huid : Draft.optional? Draft.string? (uid.map .string) = some uid := by
    cases uid <;> rfl
  have hproperties : Draft.orElse? [] (Draft.list? Draft.string?)
      (Actions.listDraft? (properties.map .string)) = some properties :=
    Actions.orElse?_listDraft? fun _ _ => rfl
  have hactions : Draft.orElse? Actions.nothing Actions.ofDraft? (some (.ofJson actions.toJson)) =
      some actions := Actions.ofDraft?_ofJson actions
  rw [ofDraft?, hmembers, reread?]
  simp only [Option.bind_eq_bind, Option.bind_some, huid, hproperties, hactions]

/-- A rule that is read back keeps its name, so one place tells whether it is the same rule. -/
theorem same_of_reread? {entry read : RuleEntry} (h : entry.reread? = some read) {index : Nat}
    (hsame : read.toRule index = entry.toRule index) : read.Same entry := by
  obtain ⟨contentFilter, -, h⟩ := Option.bind_eq_some_iff.mp h
  obtain ⟨trigger, -, h⟩ := Option.bind_eq_some_iff.mp h
  cases h
  exact same_of_uid rfl hsame

end RuleEntry

namespace RuleFile

/-- What the text of a rules file is read as. -/
def reread? (file : RuleFile) : Option RuleFile :=
  file.mapM fun listed => do return (listed.1, ← listed.2.mapM RuleEntry.reread?)

/-- A file is read as another spelling by spelling and rule by rule. -/
theorem reread?_eq_some_iff {file read : RuleFile} :
    file.reread? = some read ↔ List.Forall₂ (fun listed listed' => listed'.1 = listed.1 ∧
      List.Forall₂ (fun entry entry' => entry.reread? = some entry') listed.2 listed'.2)
      file read := by
  rw [reread?, mapM_eq_some_iff]
  refine ⟨fun h => h.imp ?_, fun h => h.imp ?_⟩
  · rintro listed listed' h
    obtain ⟨entries, hentries, heq⟩ := Option.bind_eq_some_iff.mp h
    cases heq
    exact ⟨rfl, mapM_eq_some_iff.mp hentries⟩
  · rintro ⟨id, entries⟩ ⟨id', entries'⟩ ⟨rfl, h⟩
    exact Option.bind_eq_some_iff.mpr ⟨entries', mapM_eq_some_iff.mpr h, rfl⟩

theorem list?_redraft (entries : List RuleEntry) :
    ((Json.array (entries.map RuleEntry.toJson)).redraft 1).list? RuleEntry.ofDraft? =
      entries.mapM RuleEntry.reread? := by
  rw [Json.redraft, if_pos (by decide), Json.redraftItems_eq, List.map_map]
  show (entries.map fun entry => entry.toJson.redraft 2).mapM RuleEntry.ofDraft? = _
  rw [List.mapM_map]
  exact congrArg (entries.mapM ·) (funext RuleEntry.ofDraft?_redraft)

theorem sorted_of_reread? {file read : RuleFile} (hs : file.Sorted)
    (h : file.reread? = some read) : read.Sorted := by
  have hnames : read.map Prod.fst = file.map Prod.fst := by
    have hread := reread?_eq_some_iff.mp h
    clear h hs
    induction hread with
    | nil => rfl
    | cons hfirst _ ih => rw [List.map_cons, List.map_cons, hfirst.1, ih]
  have hascend : (file.map Prod.fst).Pairwise (· < ·) := List.pairwise_map.mpr hs
  rw [← hnames] at hascend
  exact List.pairwise_map.mp hascend

/-- The text of a rules file is read rule by rule. -/
theorem ofText?_text {file : RuleFile} (hs : file.Sorted) : ofText? file.text = file.reread? := by
  have hfields : (Json.redraftFields 1 (file.mapValues fun entries =>
      .array (entries.map RuleEntry.toJson))).mapM
        (fun field => do return (field.1, ← field.2.list? RuleEntry.ofDraft?)) =
      file.reread? := by
    rw [Json.redraftFields_eq, Fields.mapValues, List.map_map, List.mapM_map, reread?]
    refine congrArg (file.mapM ·) (funext fun listed => ?_)
    rw [← list?_redraft]
    rfl
  rw [text, ofText?, Draft.ofText?_pretty, Json.redraft, if_pos (by decide)]
  show Option.bind (List.mapM (fun field : String × Draft =>
    do return (field.1, ← Draft.list? RuleEntry.ofDraft? field.2)) _) _ = _
  rw [hfields]
  cases hr : file.reread? with
  | none => rfl
  | some read =>
    rw [Option.bind_some, Fields.ofList_of_sorted (sorted_of_reread? hs hr)]
    rfl

end RuleFile

/-! ### Legible rules -/

/-- Alone in a file, the rule is read back as the rule that it was. -/
def RuleEntry.Legible (entry : RuleEntry) : Prop :=
  ∃ read, RuleFile.ofText? (RuleFile.text [("", [entry])]) = some [("", [read])] ∧ read.Same entry

theorem RuleEntry.legible_iff {entry : RuleEntry} :
    entry.Legible ↔ ∃ read, entry.reread? = some read ∧ read.Same entry := by
  refine exists_congr fun read => and_congr_left' ?_
  rw [RuleFile.ofText?_text (List.pairwise_singleton _ _), RuleFile.reread?]
  cases h : entry.reread? <;> simp [h]

/-- A rule is read back whole if its filter is not null and its raw values are exact. -/
theorem RuleEntry.reread?_of_exact {entry : RuleEntry}
    (hf : ∀ filter, entry.contentFilter = some filter → filter ≠ .null ∧ filter.Exact 3)
    (ht : entry.trigger.Exact 3) : entry.reread? = some entry := by
  obtain ⟨uid, properties, filter, trigger, actions⟩ := entry
  have hfilter : Draft.optional? Draft.toJson? (filter.map (Json.redraft 3)) = some filter := by
    cases filter with
    | none => rfl
    | some value =>
      obtain ⟨hnull, hexact⟩ := hf value rfl
      have hdraft : value.redraft 3 ≠ .null := by
        intro heq
        have hread := hexact.toJson?
        rw [heq] at hread
        exact hnull (Option.some.inj hread).symm
      rw [Option.map_some, Draft.optional?_some _ hdraft, hexact.toJson?, Option.map_some]
  rw [reread?]
  simp only [hfilter, ht.toJson?, Option.bind_eq_bind, Option.bind_some]
  rfl

/-- Such a rule is legible. -/
theorem RuleEntry.legible_of_exact {entry : RuleEntry}
    (hf : ∀ filter, entry.contentFilter = some filter → filter ≠ .null ∧ filter.Exact 3)
    (ht : entry.trigger.Exact 3) : entry.Legible :=
  legible_iff.mpr ⟨entry, reread?_of_exact hf ht, fun _ => rfl⟩

namespace RuleFile

/-- Every rule of the file is legible. -/
def Legible (file : RuleFile) : Prop := file.All RuleEntry.Legible

theorem numbered_eq_iff_of_reread? {entries read : List RuleEntry}
    (h : List.Forall₂ (fun entry entry' => entry.reread? = some entry') entries read)
    (start : Nat) :
    numbered start read = numbered start entries ↔ ∀ entry ∈ entries, entry.Legible := by
  induction h generalizing start with
  | nil => simp
  | @cons entry entry' entries read hentry _ ih =>
    have hfirst : entry'.toRule start = entry.toRule start ↔ entry.Legible := by
      rw [RuleEntry.legible_iff]
      refine ⟨fun heq => ⟨entry', hentry, RuleEntry.same_of_reread? hentry heq⟩, ?_⟩
      rintro ⟨other, hother, hsame⟩
      rw [Option.some.inj (hentry.symm.trans hother)]
      exact hsame start
    rw [numbered, numbered, List.cons.injEq, hfirst, ih, List.forall_mem_cons]

theorem spellings_of_reread? {file read : RuleFile} (h : file.reread? = some read) (id : String) :
    (file.spellings id).reread? = some (read.spellings id) := by
  rw [reread?_eq_some_iff] at h ⊢
  induction h with
  | nil => exact .nil
  | @cons listed listed' file read hfirst _ ih =>
    rw [spellings, spellings, List.filter_cons, List.filter_cons, hfirst.1]
    split
    · exact .cons hfirst ih
    · exact ih

theorem entriesOf_of_reread? {file read : RuleFile} (h : file.reread? = some read) (id : String) :
    List.Forall₂ (fun entry entry' => entry.reread? = some entry') (file.entriesOf id)
      (read.entriesOf id) := by
  rw [entriesOf, entriesOf]
  generalize hs : file.spellings id = listed, hs' : read.spellings id = listed'
  have hspellings := spellings_of_reread? h id
  rw [hs, hs', reread?_eq_some_iff] at hspellings
  clear hs hs'
  induction hspellings with
  | nil => exact .nil
  | cons hfirst _ ih => exact List.rel_append hfirst.2 ih

/-- Reading gives the rules in force that were written exactly if all of them are legible. -/
theorem collections_of_reread?_iff {file read : RuleFile} (h : file.reread? = some read) :
    read.collections = file.collections ↔ file.Legible := by
  have hget : read.collections = file.collections ↔
      ∀ id, numbered 0 (read.entriesOf id) = numbered 0 (file.entriesOf id) := by
    rw [collections, collections, collections_inj]
    refine ⟨fun heq id => ?_, fun heq => ?_⟩
    · rw [← rulesOf?_getD, ← rulesOf?_getD, ← get?_merged, ← get?_merged, heq]
    · refine read.sorted_merged.ext_get? file.sorted_merged fun id => ?_
      have hlength := (reread?_eq_some_iff.mp (spellings_of_reread? h id)).length_eq
      have hnil : read.spellings id = [] ↔ file.spellings id = [] := by
        rw [← List.length_eq_zero_iff, ← hlength, List.length_eq_zero_iff]
      rw [get?_merged, get?_merged, rulesOf?, rulesOf?, heq id]
      exact if_congr hnil rfl rfl
  rw [hget, Legible, all_iff]
  exact forall_congr' fun id => numbered_eq_iff_of_reread? (entriesOf_of_reread? h id) 0

/-- A legible file is read. -/
theorem Legible.isSome_reread? {file : RuleFile} (h : file.Legible) : file.reread?.isSome := by
  refine isSome_mapM.mpr fun listed hlisted => ?_
  have hentries : (listed.2.mapM RuleEntry.reread?).isSome := by
    refine isSome_mapM.mpr fun entry hentry => ?_
    obtain ⟨read, hread, -⟩ := RuleEntry.legible_iff.mp (h listed hlisted entry hentry)
    rw [hread]
    rfl
  obtain ⟨entries, hentries⟩ := Option.isSome_iff_exists.mp hentries
  simp only [hentries, Option.bind_eq_bind, Option.bind_some]
  rfl

/-- The text of a file tells its rules exactly if all of them are legible. -/
theorem collections_of_text_iff {file : RuleFile} (hs : file.Sorted) :
    (ofText? file.text).map collections = some file.collections ↔ file.Legible := by
  rw [ofText?_text hs]
  cases hr : file.reread? with
  | some read => rw [Option.map_some, Option.some.injEq, collections_of_reread?_iff hr]
  | none =>
    refine iff_of_false (by simp) fun hlegible => ?_
    have hread := hlegible.isSome_reread?
    rw [hr] at hread
    cases hread

end RuleFile

end RecordWatch
