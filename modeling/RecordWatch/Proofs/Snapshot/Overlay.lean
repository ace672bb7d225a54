import Mathlib.Data.List.Forall2
import RecordWatch.Proofs.Delta.Entries
import RecordWatch.Proofs.Snapshot.Index

/-! The overlay of a snapshot with the latest records. Read by key it is the latest records where
they have the key, and the stored ones elsewhere; so it never loses a key. -/

namespace RecordWatch

namespace Snapshot

theorem replaceLast?_none {record : Record} {records : List Record} :
    replaceLast? record records = none ↔ record.key ∉ records.map Record.key := by
  rw [replaceLast?_eq_set, Option.map_eq_none_iff, lastPosition?_eq_none]

/-- Where the last record of a key is replaced, the list reads as before at other keys. -/
theorem find?_replaceLast? {record : Record} {records replaced : List Record}
    (h : replaceLast? record records = some replaced) (key : String) :
    Delta.find? replaced key =
      if record.key = key then some record else Delta.find? records key := by
  induction records generalizing replaced with
  | nil => cases h
  | cons other rest ih =>
    rw [replaceLast?] at h
    cases hr : replaceLast? record rest with
    | some rest' =>
      rw [hr] at h
      cases h
      rw [Delta.find?_cons, ih hr, Delta.find?_cons]
      by_cases hk : record.key = key
      · rw [if_pos hk, if_pos hk, Option.some_or]
      · rw [if_neg hk, if_neg hk]
    | none =>
      rw [hr] at h
      dsimp only at h
      split at h
      · next heq =>
        cases h
        have hrest := replaceLast?_none.mp hr
        rw [Delta.find?_cons, Delta.find?_cons, heq]
        by_cases hk : record.key = key
        · subst hk
          rw [Delta.find?_eq_none.mpr hrest, if_pos rfl, if_pos rfl]
          rfl
        · rw [if_neg hk, if_neg hk, if_neg hk]
      · cases h

theorem find?_put (records : List Record) (record : Record) (key : String) :
    Delta.find? (put records record) key =
      if record.key = key then some record else Delta.find? records key := by
  rw [put]
  cases h : replaceLast? record records with
  | some replaced => exact find?_replaceLast? h key
  | none => exact Delta.find?_append_singleton records record key

theorem keys_put (records : List Record) (record : Record) :
    (put records record).map Record.key =
      if record.key ∈ records.map Record.key then records.map Record.key
      else records.map Record.key ++ [record.key] := by
  cases hp : lastPosition? record.key (records.map Record.key) with
  | some position =>
    rw [put_eq_set hp, keys_set hp, if_pos]
    exact List.mem_of_getElem? (lastPosition?_some hp).1
  | none => rw [put_eq_append hp, if_neg (lastPosition?_eq_none.mp hp), List.map_append]; rfl

theorem nodup_put {records : List Record} (h : (records.map Record.key).Nodup) (record : Record) :
    ((put records record).map Record.key).Nodup := by
  rw [keys_put]
  split
  · exact h
  · next hnew =>
    refine List.nodup_append.mpr ⟨h, List.pairwise_singleton _ _, fun key hk other ho => ?_⟩
    rw [List.mem_singleton.mp ho]
    rintro rfl
    exact hnew hk

/-- One step of `overlay`. -/
theorem overlay_append_singleton (stored latest : List Record) (record : Record) :
    overlay stored (latest ++ [record]) = put (overlay stored latest) record := by
  rw [overlay_eq_foldl, overlay_eq_foldl, List.foldl_append]
  rfl

/-- The overlay reads as the latest records where they have a key, else as the stored ones. -/
theorem find?_overlay (stored latest : List Record) (key : String) :
    Delta.find? (overlay stored latest) key =
      (Delta.find? latest key).or (Delta.find? stored key) := by
  induction latest using List.reverseRecOn with
  | nil => rfl
  | append_singleton latest record ih =>
    rw [overlay_append_singleton, find?_put, ih, Delta.find?_append_singleton]
    split <;> rfl

theorem mem_keys_overlay {stored latest : List Record} {key : String} :
    key ∈ (overlay stored latest).map Record.key ↔
      key ∈ stored.map Record.key ∨ key ∈ latest.map Record.key := by
  rw [← Delta.find?_isSome, ← Delta.find?_isSome, ← Delta.find?_isSome, find?_overlay,
    Option.isSome_or, Bool.or_eq_true, or_comm]

/-- The overlay has each key once if what is stored does. -/
theorem nodup_overlay {stored : List Record} (h : (stored.map Record.key).Nodup)
    (latest : List Record) : ((overlay stored latest).map Record.key).Nodup := by
  induction latest using List.reverseRecOn with
  | nil => exact h
  | append_singleton latest record ih =>
    rw [overlay_append_singleton]
    exact nodup_put ih record

/-- A record that is found is replaced by itself. -/
theorem replaceLast?_of_find? {record : Record} {records : List Record}
    (h : Delta.find? records record.key = some record) :
    replaceLast? record records = some records := by
  induction records with
  | nil => cases h
  | cons other rest ih =>
    rw [Delta.find?_cons] at h
    rw [replaceLast?]
    cases hr : Delta.find? rest record.key with
    | some found =>
      rw [hr, Option.some_or] at h
      rw [ih (hr.trans h)]
    | none =>
      rw [hr, Option.none_or] at h
      rw [replaceLast?_none.mpr (Delta.find?_eq_none.mp hr)]
      split at h
      · next hk =>
        cases h
        exact if_pos hk
      · cases h

/-- Records that are found are nothing new to an overlay. -/
theorem overlay_of_find? {records latest : List Record}
    (h : ∀ record ∈ latest, Delta.find? records record.key = some record) :
    overlay records latest = records := by
  induction latest with
  | nil => rfl
  | cons record rest ih =>
    have hput : put records record = records := by
      rw [put, replaceLast?_of_find? (h record List.mem_cons_self)]
      rfl
    rw [overlay_eq_foldl, List.foldl_cons, hput, ← overlay_eq_foldl]
    exact ih fun other ho => h other (List.mem_cons_of_mem _ ho)

/-- An overlay has the latest records. -/
theorem find?_overlay_of_mem (stored : List Record) {latest : List Record}
    (hd : (latest.map Record.key).Nodup) {record : Record} (h : record ∈ latest) :
    Delta.find? (overlay stored latest) record.key = some record := by
  rw [find?_overlay, Delta.find?_of_mem hd h]
  rfl

theorem mem_put {records : List Record} {record r : Record} (h : r ∈ put records record) :
    r ∈ records ∨ r = record := by
  cases hp : lastPosition? record.key (records.map Record.key) with
  | some position =>
    rw [put_eq_set hp] at h
    exact List.mem_or_eq_of_mem_set h
  | none =>
    rw [put_eq_append hp] at h
    simpa using h

theorem mem_overlay {stored latest : List Record} {r : Record} (h : r ∈ overlay stored latest) :
    r ∈ stored ∨ r ∈ latest := by
  induction latest using List.reverseRecOn with
  | nil => exact .inl h
  | append_singleton latest record ih =>
    rw [overlay_append_singleton] at h
    rcases mem_put h with h | rfl
    · exact (ih h).imp_right (List.mem_append_left _)
    · exact .inr (by simp)

end Snapshot

end RecordWatch
