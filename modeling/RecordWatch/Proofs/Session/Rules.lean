import RecordWatch.Proofs.Fields
import RecordWatch.Proofs.Record.Text
import RecordWatch.Proofs.Rule.Listing
import RecordWatch.Proofs.Simulation
import RecordWatch.Session

/-! The rules in force. They come from a rules file, so no two collections have the same id; and
reading them again leaves alone when the last successful polls began. -/

namespace RecordWatch

/-- The collections of a rules file have different ids. -/
theorem RuleFile.nodup_collections (file : RuleFile) :
    (file.collections.map Collection.id).Nodup := by
  have hids : file.collections.map Collection.id = file.merged.map Prod.fst := by
    rw [collections, List.map_map]
    rfl
  rw [hids]
  exact List.pairwise_map.mpr (file.sorted_merged.imp String.ne_of_lt)

section

variable {σ : Type} {s : Surroundings (StateM σ)}

theorem readRules_collections {disk : Disk (StateM σ)} {path : String} {w w' : σ}
    {collections : List Collection} (h : readRules disk path w = (.ok collections, w')) :
    ∃ file : RuleFile, collections = file.collections := by
  cases hr : disk.readText path w with
  | mk content after =>
    rw [readRules, bind_run hr] at h
    cases content with
    | error error => cases h
    | ok text =>
      dsimp only at h
      cases hf : RuleFile.ofText? text with
      | none =>
        rw [hf] at h
        cases h
      | some file =>
        rw [hf] at h
        cases h
        exact ⟨file, rfl⟩

theorem readRules_of_text {disk : Disk (StateM σ)} {path : String} {w w' : σ} {text : String}
    {file : RuleFile} (hr : disk.read path w = (.ok text.toUTF8, w'))
    (hf : RuleFile.ofText? text = some file) :
    readRules disk path w = (.ok file.collections, w') := by
  have htext : disk.readText path w = (.ok text, w') := by
    rw [Disk.readText, bind_run hr]
    dsimp only
    rw [fromUTF8?_toUTF8]
    rfl
  rw [readRules, bind_run htext]
  dsimp only
  rw [hf]
  rfl

namespace Session

/-- The collections that a session polls have different ids. -/
def Distinct (session : Session) : Prop := (session.collections.map Collection.id).Nodup

/-- A session that has just started knows of no successful poll. -/
theorem start_lastSuccess {w w' : σ} {session : Session}
    (h : start s w = (.ok session, w')) : session.Distinct ∧ session.lastSuccess = [] := by
  cases hm : s.disk.modified s.settings.rulesPath w with
  | mk modified after =>
    cases hr : readRules s.disk s.settings.rulesPath after with
    | mk rules later =>
      rw [start, bind_run hm, bind_run hr] at h
      cases rules with
      | error error => cases h
      | ok collections =>
        obtain ⟨file, rfl⟩ := readRules_collections hr
        cases h
        exact ⟨file.nodup_collections, rfl⟩

/-- A session starts with the rules of a file that can be parsed. -/
theorem start_of_text {w seen read w' : σ} {modified : Except FileError Int} {text : String}
    {file : RuleFile} {clock : Moment}
    (hm : s.disk.modified s.settings.rulesPath w = (modified, seen))
    (hr : s.disk.read s.settings.rulesPath seen = (.ok text.toUTF8, read))
    (hf : RuleFile.ofText? text = some file) (hl : ∀ event v, s.log event v = ((), v))
    (hn : s.now read = (clock, w')) :
    start s w = (.ok ⟨file.collections, modified.toOption, [], clock.instant⟩, w') := by
  have hlog : ∀ collections : List Collection, (collections.forM fun collection =>
      s.log (.watching collection.id collection.rules.length)) read = ((), read) := by
    intro collections
    induction collections with
    | nil => rfl
    | cons collection rest ih => exact (bind_run (hl _ read)).trans ih
  rw [start, bind_run hm, bind_run (readRules_of_text hr hf)]
  dsimp only
  rw [bind_run (hlog _), bind_run hn]
  rfl

/-- What reading the rules again can do: nothing, note the version of their file, or also put the
rules of the file in force. -/
theorem reload_cases {session reloaded : Session} {w w' : σ}
    (h : session.reload s w = (reloaded, w')) :
    reloaded = session ∨ ∃ time, reloaded = { session with rulesModified := some time } ∨
      ∃ file : RuleFile, reloaded =
        { session with collections := file.collections, rulesModified := some time } := by
  cases hm : s.disk.modified s.settings.rulesPath w with
  | mk modified after =>
    rw [reload, bind_run hm] at h
    cases modified with
    | error error =>
      cases h
      exact .inl rfl
    | ok time =>
      dsimp only at h
      split at h
      · cases h
        exact .inl rfl
      · cases hr : readRules s.disk s.settings.rulesPath after with
        | mk rules later =>
          rw [bind_run hr] at h
          cases rules with
          | error error =>
            cases h
            exact .inr ⟨time, .inl rfl⟩
          | ok collections =>
            obtain ⟨file, rfl⟩ := readRules_collections hr
            cases h
            exact .inr ⟨time, .inr ⟨file, rfl⟩⟩

theorem reload_lastSuccess {session reloaded : Session} {w w' : σ}
    (h : session.reload s w = (reloaded, w')) :
    reloaded.lastSuccess = session.lastSuccess ∧ (session.Distinct → reloaded.Distinct) := by
  rcases reload_cases h with rfl | ⟨time, rfl | ⟨file, rfl⟩⟩
  · exact ⟨rfl, id⟩
  · exact ⟨rfl, id⟩
  · exact ⟨rfl, fun _ => file.nodup_collections⟩

end Session

end

end RecordWatch
