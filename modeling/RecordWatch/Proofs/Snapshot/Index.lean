import Mathlib.Data.List.Induction
import RecordWatch.Proofs.Fields
import RecordWatch.Snapshot

/-! The index of an overlay. It always holds the last position of every key, also where keys repeat
among the stored records, so a record is put where the last one of its key stands. `put` says the
same without an index. -/

namespace RecordWatch

namespace Snapshot

/-- The last position of a key. -/
def lastPosition? (key : String) : List String → Option Nat
  | [] => none
  | other :: rest =>
    match lastPosition? key rest with
    | some position => some (position + 1)
    | none => if other = key then some 0 else none

theorem lastPosition?_eq_none {key : String} {keys : List String} :
    lastPosition? key keys = none ↔ key ∉ keys := by
  induction keys with
  | nil => simp [lastPosition?]
  | cons other rest ih =>
    rw [lastPosition?, List.mem_cons, not_or, ← ih]
    cases lastPosition? key rest with
    | some position => simp
    | none => simp [eq_comm]

theorem lastPosition?_append_singleton (key other : String) (keys : List String) :
    lastPosition? key (keys ++ [other]) =
      if other = key then some keys.length else lastPosition? key keys := by
  induction keys with
  | nil => rfl
  | cons first rest ih =>
    rw [List.cons_append, lastPosition?, ih]
    by_cases h : other = key
    · simp [h]
    · rw [if_neg h, if_neg h, lastPosition?]

/-- At its last position the key stands, and nowhere after it. -/
theorem lastPosition?_some {key : String} {keys : List String} {position : Nat}
    (h : lastPosition? key keys = some position) :
    keys[position]? = some key ∧ key ∉ keys.drop (position + 1) := by
  induction keys generalizing position with
  | nil => cases h
  | cons other rest ih =>
    rw [lastPosition?] at h
    cases hr : lastPosition? key rest with
    | some below =>
      rw [hr] at h
      cases h
      simpa using ih hr
    | none =>
      rw [hr] at h
      dsimp only at h
      split at h
      · next heq =>
        cases h
        exact ⟨congrArg some heq, lastPosition?_eq_none.mp hr⟩
      · cases h

/-! ### Without an index -/

/-- The records with the last one of a key replaced, if there is one. -/
def replaceLast? (record : Record) : List Record → Option (List Record)
  | [] => none
  | other :: rest =>
    match replaceLast? record rest with
    | some rest => some (other :: rest)
    | none => if other.key = record.key then some (record :: rest) else none

/-- The records with one more, in the place of the last one of its key or at the end. -/
def put (records : List Record) (record : Record) : List Record :=
  (replaceLast? record records).getD (records ++ [record])

theorem replaceLast?_eq_set (record : Record) (records : List Record) :
    replaceLast? record records =
      (lastPosition? record.key (records.map Record.key)).map (records.set · record) := by
  induction records with
  | nil => rfl
  | cons other rest ih =>
    rw [replaceLast?, ih, List.map_cons, lastPosition?]
    cases lastPosition? record.key (rest.map Record.key) with
    | some position => rfl
    | none =>
      dsimp only [Option.map_none]
      split <;> rfl

theorem put_eq_set {record : Record} {records : List Record} {position : Nat}
    (h : lastPosition? record.key (records.map Record.key) = some position) :
    put records record = records.set position record := by
  rw [put, replaceLast?_eq_set, h]
  rfl

theorem put_eq_append {record : Record} {records : List Record}
    (h : lastPosition? record.key (records.map Record.key) = none) :
    put records record = records ++ [record] := by
  rw [put, replaceLast?_eq_set, h]
  rfl

/-- A record that is put where its key stands changes no key. -/
theorem keys_set {record : Record} {records : List Record} {position : Nat}
    (h : lastPosition? record.key (records.map Record.key) = some position) :
    (records.set position record).map Record.key = records.map Record.key := by
  have hkey := (lastPosition?_some h).1
  rw [List.getElem?_eq_some_iff] at hkey
  obtain ⟨hlt, hkey⟩ := hkey
  rw [List.map_set, ← hkey, List.set_getElem_self]

/-! ### With the index -/

namespace Indexed

/-- The index holds the last position of every key. -/
def Valid (t : Indexed) : Prop :=
  ∀ key, t.index.get? key = lastPosition? key (t.records.map Record.key)

theorem valid_ofRecords (records : List Record) : (ofRecords records).Valid := by
  intro key
  rw [ofRecords]
  induction records using List.reverseRecOn with
  | nil => rfl
  | append_singleton records record ih =>
    rw [Fields.get?_ofList] at ih ⊢
    have hlast : List.lookup key [(record.key, records.length)] =
        if record.key = key then some records.length else none :=
      Fields.get?_cons record.key records.length [] key
    rw [List.zipIdx_append, List.map_append, List.reverse_append, List.lookup_append, ih,
      List.map_append, List.map_singleton, lastPosition?_append_singleton, List.length_map]
    simp only [List.zipIdx_singleton, Nat.zero_add, List.map_singleton, List.reverse_singleton,
      hlast]
    split <;> rfl

variable {t : Indexed}

theorem Valid.put_records (h : t.Valid) (record : Record) :
    (t.put record).records = Snapshot.put t.records record := by
  rw [put, h]
  cases hp : lastPosition? record.key (t.records.map Record.key) with
  | some position => exact (put_eq_set hp).symm
  | none => exact (put_eq_append hp).symm

/-- Every record that is put leaves the index with the last positions. -/
theorem Valid.put (h : t.Valid) (record : Record) : (t.put record).Valid := by
  intro key
  rw [Indexed.put, h]
  cases hp : lastPosition? record.key (t.records.map Record.key) with
  | some position =>
    dsimp only
    rw [keys_set hp, h]
  | none =>
    dsimp only
    rw [Fields.get?_put, List.map_append, List.map_singleton, lastPosition?_append_singleton,
      List.length_map, h]

theorem Valid.foldl (h : t.Valid) (latest : List Record) :
    (latest.foldl Indexed.put t).Valid ∧
      (latest.foldl Indexed.put t).records = latest.foldl Snapshot.put t.records := by
  induction latest generalizing t with
  | nil => exact ⟨h, rfl⟩
  | cons record rest ih =>
    rw [List.foldl_cons, List.foldl_cons, ← h.put_records]
    exact ih (h.put record)

/-- Where the index points there is a record of the key. -/
theorem Valid.points (h : t.Valid) {key : String} {position : Nat}
    (hp : t.index.get? key = some position) :
    ∃ record, t.records[position]? = some record ∧ record.key = key := by
  rw [h] at hp
  have hkey := (lastPosition?_some hp).1
  rwa [List.getElem?_map, Option.map_eq_some_iff] at hkey

end Indexed

/-- The index makes no difference to an overlay. -/
theorem overlay_eq_foldl (stored latest : List Record) :
    overlay stored latest = latest.foldl put stored :=
  ((Indexed.valid_ofRecords stored).foldl latest).2

end Snapshot

end RecordWatch
