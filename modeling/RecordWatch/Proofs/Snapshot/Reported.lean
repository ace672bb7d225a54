import RecordWatch.Proofs.Delta.Ascending
import RecordWatch.Proofs.Snapshot.Store
import RecordWatch.Proofs.Snapshot.Unchanged

/-! What is reported of a key and what is stored of it. A merge keeps the last of the latest records
of a key. The comparison reports the last one that changed, so the two part where an earlier record
of a key changed and the last one did not. -/

namespace RecordWatch

/-- Stored records are unchanged. -/
theorem Unchanged.self {stored : List Record} (hd : (stored.map Record.key).Nodup) :
    Unchanged stored stored :=
  fun record hr => ⟨record, Delta.find?_of_mem hd hr, Record.Same.refl record⟩

namespace Delta

variable {old latest : List Record} {active : List String} {key : String}

/-! ### The last record of a key -/

variable (old latest active key) in
/-- An earlier one of the latest records of a key changed, and the last one did not. -/
structure Reverts : Prop where
  changed : ∃ record ∈ latest, record.key = key ∧ ofRecord? old active record ≠ none
  last : ∃ record, find? latest key = some record ∧ ofRecord? old active record = none

/-- A key has no entry exactly if no record of the key changed. -/
theorem get?_changes_eq_none : (changes old latest active).get? key = none ↔
    ∀ record ∈ latest, record.key = key → ofRecord? old active record = none := by
  rw [get?_changes, List.findSome?_eq_none_iff]
  constructor
  · intro h record hr hk
    have hnone := h record (List.mem_reverse.mpr hr)
    rwa [if_pos hk] at hnone
  · intro h record hr
    split
    · next hk => exact h record (List.mem_reverse.mp hr) hk
    · rfl

/-- Where the last record of a key changed, its change is the entry. -/
theorem get?_changes_of_last {record : Record} {change : ChangeSet}
    (hl : find? latest key = some record) (hc : ofRecord? old active record = some change) :
    (changes old latest active).get? key = some change := by
  induction latest using List.reverseRecOn with
  | nil => cases hl
  | append_singleton latest last ih =>
    rw [find?_append_singleton] at hl
    rw [changes_append_singleton]
    by_cases hk : last.key = key
    · rw [if_pos hk] at hl
      cases hl
      rw [hc]
      dsimp only
      rw [hk, Fields.get?_put_self]
    · rw [if_neg hk] at hl
      cases ofRecord? old active last with
      | none => exact ih hl
      | some other =>
        dsimp only
        rw [Fields.get?_put_ne hk]
        exact ih hl

/-- When keys do not repeat, the entry of a key is the change of its record. -/
theorem get?_changes_of_nodup (old : List Record) (active : List String)
    (hd : (latest.map Record.key).Nodup) (key : String) :
    (changes old latest active).get? key = (find? latest key).bind (ofRecord? old active) := by
  cases hf : find? latest key with
  | none => exact get?_changes_of_not_mem old active (find?_eq_none.mp hf)
  | some record =>
    obtain ⟨hr, rfl⟩ := find?_some hf
    exact get?_changes_of_mem old active hd hr

/-- The comparison with what a merge keeps has the change of the last of the latest records. -/
theorem get?_changes_overlay (hd : (old.map Record.key).Nodup) :
    (changes old (Snapshot.overlay old latest) active).get? key =
      (find? latest key).bind (ofRecord? old active) := by
  rw [get?_changes_of_nodup old active (Snapshot.nodup_overlay hd latest),
    Snapshot.find?_overlay]
  cases find? latest key with
  | some last => rfl
  | none =>
    rw [Option.none_or]
    cases ho : find? old key with
    | none => rfl
    | some stored => exact (Unchanged.self hd).ofRecord? active (find?_some ho).1

/-! ### Where the two agree -/

/-- The comparison with the latest records and the one with what is kept of them have one entry of a
key unless the key reverts. -/
theorem get?_changes_eq_overlay_iff (hd : (old.map Record.key).Nodup) :
    (changes old latest active).get? key =
      (changes old (Snapshot.overlay old latest) active).get? key ↔
        ¬Reverts old latest active key := by
  rw [get?_changes_overlay hd]
  cases hl : find? latest key with
  | none =>
    rw [get?_changes_of_not_mem old active (find?_eq_none.mp hl)]
    refine iff_of_true rfl fun h => ?_
    obtain ⟨record, hrecord, -⟩ := h.last
    rw [hl] at hrecord
    cases hrecord
  | some last =>
    rw [Option.bind_some]
    cases hc : ofRecord? old active last with
    | some change =>
      refine iff_of_true (get?_changes_of_last hl hc) fun h => ?_
      obtain ⟨record, hrecord, hnone⟩ := h.last
      rw [hl] at hrecord
      cases hrecord
      rw [hc] at hnone
      cases hnone
    | none =>
      rw [get?_changes_eq_none]
      constructor
      · intro h hreverts
        obtain ⟨record, hr, hk, hne⟩ := hreverts.changed
        exact hne (h record hr hk)
      · intro h record hr hk
        by_contra hne
        exact h ⟨⟨record, hr, hk, hne⟩, last, hl, hc⟩

theorem changes_eq_overlay_iff (hd : (old.map Record.key).Nodup) :
    changes old latest active = changes old (Snapshot.overlay old latest) active ↔
      ∀ key, ¬Reverts old latest active key := by
  constructor
  · intro h key
    rw [← get?_changes_eq_overlay_iff hd, ← h]
  · intro h
    refine (sorted_changes old latest active).ext (sorted_changes _ _ _) fun entry => ?_
    rw [← Fields.get?_eq_some_iff (sorted_changes old latest active),
      ← Fields.get?_eq_some_iff (sorted_changes _ _ _),
      (get?_changes_eq_overlay_iff hd).mpr (h entry.1)]

end Delta

/-! ### Merging -/

/-- What is reported of the latest records since the old ones, and the records that are kept: they
are the last ones of their keys, and exactly at keys that do not revert the report is theirs. -/
structure ReportsKept (old latest kept : List Record) (active : List String) : Prop where
  record (key : String) :
    Delta.find? kept key = (Delta.find? latest key).or (Delta.find? old key)
  entry (key : String) :
    (Delta.changes old latest active).get? key = (Delta.changes old kept active).get? key ↔
      ¬Delta.Reverts old latest active key
  all : Delta.changes old latest active = Delta.changes old kept active ↔
    ∀ key, ¬Delta.Reverts old latest active key
  reported (key : String) :
    (∀ change, (Delta.changes old latest active).get? key = some change →
      (Delta.find? kept key).bind (Delta.ofRecord? old active) = some change) ↔
        ¬Delta.Reverts old latest active key

theorem reportsKept_overlay {old : List Record} (hd : (old.map Record.key).Nodup)
    (latest : List Record) (active : List String) :
    ReportsKept old latest (Snapshot.overlay old latest) active where
  record := Snapshot.find?_overlay old latest
  entry key := Delta.get?_changes_eq_overlay_iff hd
  all := Delta.changes_eq_overlay_iff hd
  reported key := by
    rw [← Delta.get?_changes_of_nodup old active (Snapshot.nodup_overlay hd latest),
      ← Delta.get?_changes_eq_overlay_iff hd]
    constructor
    · intro h
      cases hc : (Delta.changes old latest active).get? key with
      | some change => exact (h change hc).symm
      | none =>
        rw [← hc, Delta.get?_changes_eq_overlay_iff hd]
        intro hreverts
        obtain ⟨record, hr, hk, hne⟩ := hreverts.changed
        exact hne (Delta.get?_changes_eq_none.mp hc record hr hk)
    · intro h change hc
      rw [← h, hc]

namespace SnapshotStore

variable {ε : Type} {env : Environment ε} {root : String} {settings : Settings}

/-- A merge stores what it returns, and that differs from what is reported of the latest records
exactly at the keys that revert. -/
theorem merge_reportsKept (hs : env.Sound) {collection : String}
    (hp : (env.store root settings).path collection ≠ settings.rulesPath) {w : World ε Files}
    {old : List Record}
    (hb : base? collection (w.store ((env.store root settings).path collection)) = some old)
    (hd : (old.map Record.key).Nodup) (latest : List Record) (active : List String) :
    ∃ kept w', (env.store root settings).merge collection latest w = (.ok kept, w') ∧
      w'.store ((env.store root settings).path collection) = some (bytesOf kept) ∧
      ReportsKept old latest kept active := by
  have hmerged := merge_spec hp latest w
  generalize (env.store root settings).merge collection latest w = merged at hmerged ⊢
  cases hmerged with
  | failed hf hl =>
    rw [hf hs] at hb
    cases hb
  | @stored stored w' hb' hl =>
    rw [hb] at hb'
    cases hb'
    refine ⟨_, w', rfl, ?_, reportsKept_overlay hd latest active⟩
    rw [hl.held, Function.update_self]

/-- The path of a snapshot that holds a note. -/
def notePath : String :=
  ((Environment.answering (fun _ => .ok []) []).store "store" ⟨"rules", 3600, 600⟩).path "c-1"

/-- The files of a store that has this snapshot. -/
def noteFiles : Files := Function.update (fun _ => none) notePath (some (bytesOf [noted "a"]))

theorem base?_noteFiles : base? "c-1" (noteFiles notePath) = some [noted "a"] := by
  have hlegible : ∀ record ∈ [noted "a"], record.Legible := by
    intro record hr
    rw [List.mem_singleton.mp hr]
    exact legible_noted "a"
  rw [noteFiles, Function.update_self, base?, loaded_of_legible hlegible]
  rfl

/-- The note is changed and changed back in one answer. -/
theorem merge_reportsKept_note :
    ∃ kept w', ((Environment.answering (fun _ => .ok []) []).store "store"
        ⟨"rules", 3600, 600⟩).merge "c-1" [noted "b", noted "a"] ⟨0, noteFiles, []⟩ =
          (.ok kept, w') ∧
      w'.store notePath = some (bytesOf kept) ∧
      ReportsKept [noted "a"] [noted "b", noted "a"] kept ["Note"] := by
  have hnodup : ([noted "a"].map Record.key).Nodup := List.pairwise_singleton _ _
  exact merge_reportsKept (Environment.sound_answering _ _) (by decide) base?_noteFiles hnodup _ _

end SnapshotStore

/-- A note that is changed and changed back is reported, though the record that is kept has not
changed. -/
theorem changes_ne_overlay_note :
    Delta.changes [noted "a"] [noted "b", noted "a"] ["Note"] ≠
      Delta.changes [noted "a"] (Snapshot.overlay [noted "a"] [noted "b", noted "a"]) ["Note"] := by
  intro h
  have hnodup : ([noted "a"].map Record.key).Nodup := List.pairwise_singleton _ _
  have hchanged : Delta.ofRecord? [noted "a"] ["Note"] (noted "b") ≠ none :=
    Option.isSome_iff_ne_none.mp rfl
  refine (Delta.changes_eq_overlay_iff hnodup).mp h (noted "a").key ⟨?_, ?_⟩
  · exact ⟨noted "b", List.mem_cons_self, rfl, hchanged⟩
  · exact ⟨noted "a", rfl, rfl⟩

end RecordWatch
