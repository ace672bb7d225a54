import RecordWatch.Proofs.Simulation
import RecordWatch.Proofs.Snapshot.Reported

/-! Records presented in another way: in another order, their ids with dashes in other places. Lists
of records say the same if they have the same records of every key, in order and but for the
spelling of ids. The comparison of such lists finds the same changes, and overlaying them leaves
lists that say the same, which are loaded as such lists again. -/

namespace RecordWatch

namespace Record

/-- The record with its id written without dashes. -/
def plain (r : Record) : Record := { r with id := r.key }

@[simp] theorem key_plain (r : Record) : r.plain.key = r.key := plainId_plainId r.id

/-- Records that differ in the dashes of their ids alone are written alike. -/
theorem plain_respelled (r : Record) {id : String} (h : plainId id = r.key) :
    plain { r with id } = r.plain := by
  show ({ r with id := plainId id } : Record) = { r with id := r.key }
  rw [h]

theorem key_of_plain {r r' : Record} (h : r.plain = r'.plain) : r.key = r'.key := by
  rw [← key_plain r, h, key_plain]

/-- How an id is spelled does not change how the record is read. -/
theorem reread?_plain (r : Record) : r.plain.reread? = r.reread?.map plain := by
  rw [reread?, reread?, Option.map_map plain]
  rfl

end Record

namespace Snapshot

/-! ### The records of a key -/

/-- The records of a key in order, their ids written without dashes. -/
def byKey (records : List Record) (key : String) : List Record :=
  (records.filter (·.key = key)).map Record.plain

@[simp] theorem byKey_nil (key : String) : byKey [] key = [] := rfl

theorem byKey_append (records more : List Record) (key : String) :
    byKey (records ++ more) key = byKey records key ++ byKey more key := by
  rw [byKey, List.filter_append, List.map_append]
  rfl

theorem byKey_cons (record : Record) (records : List Record) (key : String) :
    byKey (record :: records) key =
      if record.key = key then record.plain :: byKey records key else byKey records key := by
  rw [byKey, List.filter_cons]
  simp only [decide_eq_true_eq]
  split <;> rfl

theorem byKey_eq_nil {records : List Record} {key : String} :
    byKey records key = [] ↔ key ∉ records.map Record.key := by
  simp [byKey]

theorem mem_byKey {records : List Record} {key : String} {record : Record} :
    record ∈ byKey records key ↔ ∃ r ∈ records, r.key = key ∧ r.plain = record := by
  simp [byKey, and_assoc]

theorem getLast?_byKey (records : List Record) (key : String) :
    (byKey records key).getLast? = (Delta.find? records key).map Record.plain := by
  induction records using List.reverseRecOn with
  | nil => rfl
  | append_singleton records record ih =>
    rw [byKey_append, byKey_cons, byKey_nil, Delta.find?_append_singleton]
    split
    · rw [List.getLast?_concat, Option.map_some]
    · rw [List.append_nil, ih]

theorem byKey_replaceLast? {record : Record} {records replaced : List Record}
    (h : replaceLast? record records = some replaced) (key : String) :
    byKey replaced key =
      if record.key = key then (byKey records key).dropLast ++ [record.plain]
      else byKey records key := by
  induction records generalizing replaced with
  | nil => cases h
  | cons other rest ih =>
    rw [replaceLast?] at h
    cases hr : replaceLast? record rest with
    | some rest' =>
      rw [hr] at h
      cases h
      rw [byKey_cons, byKey_cons, ih hr]
      by_cases hk : record.key = key
      · -- There is a record of the key in `rest`, so the first record is not the one replaced.
        have hne : byKey rest key ≠ [] := by
          rw [ne_eq, byKey_eq_nil, ← hk, ← replaceLast?_none, hr]
          exact Option.some_ne_none rest'
        rw [if_pos hk, if_pos hk]
        split
        · rw [List.dropLast_cons_of_ne_nil hne, List.cons_append]
        · rfl
      · rw [if_neg hk, if_neg hk]
    | none =>
      rw [hr] at h
      dsimp only at h
      split at h
      · next heq =>
        cases h
        have hrest := replaceLast?_none.mp hr
        rw [byKey_cons, byKey_cons, heq]
        by_cases hk : record.key = key
        · subst hk
          rw [if_pos rfl, if_pos rfl, if_pos rfl, byKey_eq_nil.mpr hrest]
          rfl
        · rw [if_neg hk, if_neg hk, if_neg hk]
      · cases h

theorem byKey_put (records : List Record) (record : Record) (key : String) :
    byKey (put records record) key =
      if record.key = key then (byKey records key).dropLast ++ [record.plain]
      else byKey records key := by
  rw [put]
  cases h : replaceLast? record records with
  | some replaced => exact byKey_replaceLast? h key
  | none =>
    rw [Option.getD_none, byKey_append, byKey_cons, byKey_nil]
    split
    · next hk =>
      subst hk
      rw [byKey_eq_nil.mpr (replaceLast?_none.mp h)]
      rfl
    · rw [List.append_nil]

/-- An overlay has the latest record of a key in the place of the last stored one. -/
theorem byKey_overlay (stored latest : List Record) (key : String) :
    byKey (overlay stored latest) key =
      ((Delta.find? latest key).map Record.plain).elim (byKey stored key)
        fun record => (byKey stored key).dropLast ++ [record] := by
  induction latest using List.reverseRecOn with
  | nil => rfl
  | append_singleton latest record ih =>
    rw [overlay_append_singleton, byKey_put, ih, Delta.find?_append_singleton]
    split
    · rw [Option.map_some, Option.elim_some]
      cases Delta.find? latest key with
      | none => rfl
      | some before => rw [Option.map_some, Option.elim_some, List.dropLast_concat]
    · rfl

end Snapshot

/-! ### Lists that say the same -/

/-- The records of every key are the same, but for the spelling of their ids. -/
def SameByKey (records others : List Record) : Prop :=
  Snapshot.byKey records = Snapshot.byKey others

namespace SameByKey

theorem refl (records : List Record) : SameByKey records records := rfl

variable {records others : List Record}

theorem find? (h : SameByKey records others) (key : String) :
    (Delta.find? records key).map Record.plain = (Delta.find? others key).map Record.plain := by
  rw [← Snapshot.getLast?_byKey, h, Snapshot.getLast?_byKey]

theorem exists_mem (h : SameByKey records others) {record : Record} (hr : record ∈ others) :
    ∃ r ∈ records, r.plain = record.plain := by
  have hmem : record.plain ∈ Snapshot.byKey others record.key :=
    Snapshot.mem_byKey.mpr ⟨record, hr, rfl, rfl⟩
  rw [← h] at hmem
  obtain ⟨r, hr, -, hplain⟩ := Snapshot.mem_byKey.mp hmem
  exact ⟨r, hr, hplain⟩

theorem overlay (h : SameByKey records others) {latest latest' : List Record}
    (hl : ∀ key, (Delta.find? latest key).map Record.plain =
      (Delta.find? latest' key).map Record.plain) :
    SameByKey (Snapshot.overlay records latest) (Snapshot.overlay others latest') := by
  funext key
  rw [Snapshot.byKey_overlay, Snapshot.byKey_overlay, h, hl]

theorem byKey_reread {read : List Record} (hr : records.mapM Record.reread? = some read)
    (key : String) :
    (Snapshot.byKey records key).mapM Record.reread? = some (Snapshot.byKey read key) := by
  have hread := mapM_eq_some_iff.mp hr
  clear hr
  induction hread with
  | nil => rfl
  | @cons record read records rest hrecord _ ih =>
    rw [Snapshot.byKey_cons, Snapshot.byKey_cons, Record.reread?_key hrecord]
    split
    · rw [List.mapM_cons, Record.reread?_plain, hrecord, ih]
      rfl
    · exact ih

theorem isSome_reread (h : SameByKey records others)
    (hr : (records.mapM Record.reread?).isSome) : (others.mapM Record.reread?).isSome := by
  rw [isSome_mapM] at hr ⊢
  intro record hmem
  obtain ⟨r, hr', hplain⟩ := h.exists_mem hmem
  have hsome := hr r hr'
  rw [← Option.isSome_map (f := Record.plain)] at hsome ⊢
  rwa [← Record.reread?_plain, ← hplain, Record.reread?_plain]

/-- Both lists are read back, or neither. -/
theorem reread (h : SameByKey records others) :
    Option.Rel SameByKey (records.mapM Record.reread?) (others.mapM Record.reread?) := by
  cases hr : records.mapM Record.reread? with
  | none =>
    cases ho : others.mapM Record.reread? with
    | none => exact .none
    | some read =>
      have hsome := isSome_reread (Eq.symm h) (Option.isSome_of_mem ho)
      rw [hr] at hsome
      cases hsome
  | some read =>
    obtain ⟨read', ho⟩ := Option.isSome_iff_exists.mp (h.isSome_reread (Option.isSome_of_mem hr))
    rw [ho]
    refine .some (funext fun key => ?_)
    have hkey := byKey_reread hr key
    rw [h, byKey_reread ho key] at hkey
    exact (Option.some.inj hkey).symm

end SameByKey

/-! ### Results of a query -/

/-- Two results of a query that say the same: where no key repeats, the records may be in any order
and their ids may have dashes anywhere. -/
inductive Presents : List Record → List Record → Prop where
  | same (latest : List Record) : Presents latest latest
  | rearranged {latest other : List Record} (hd : (latest.map Record.key).Nodup)
    (hp : (latest.map Record.plain).Perm (other.map Record.plain)) : Presents latest other

theorem keys_perm {latest other : List Record}
    (h : (latest.map Record.plain).Perm (other.map Record.plain)) :
    (latest.map Record.key).Perm (other.map Record.key) := by
  have hkeys := h.map Record.key
  rw [List.map_map, List.map_map] at hkeys
  have hplain : Record.key ∘ Record.plain = Record.key := funext Record.key_plain
  rwa [hplain] at hkeys

namespace Presents

variable {latest other : List Record}

theorem find? (h : Presents latest other) (key : String) :
    (Delta.find? latest key).map Record.plain = (Delta.find? other key).map Record.plain := by
  cases h with
  | same => rfl
  | rearranged hd hp =>
    have hkeys := keys_perm hp
    cases hf : Delta.find? latest key with
    | none =>
      rw [Delta.find?_eq_none, hkeys.mem_iff] at hf
      rw [Delta.find?_eq_none.mpr hf]
    | some record =>
      obtain ⟨hr, rfl⟩ := Delta.find?_some hf
      obtain ⟨record', hr', hplain⟩ := List.mem_map.mp (hp.mem_iff.mp (List.mem_map_of_mem hr))
      rw [← Record.key_of_plain hplain, Delta.find?_of_mem (hkeys.nodup_iff.mp hd) hr',
        Option.map_some, Option.map_some, hplain]

end Presents

/-! ### The comparison -/

namespace Delta

variable {active : List String}

/-- How ids are spelled does not change what is found to have changed. -/
theorem change?_plain (before : Option Record) (record : Record) :
    change? active (before.map Record.plain) record.plain = change? active before record := by
  cases before with
  | none => exact congrArg (fun key => some (ChangeSet.newPage key)) record.key_plain
  | some before => rfl

theorem ofRecord?_of_find? {old old' : List Record}
    (h : ∀ key, (find? old key).map Record.plain = (find? old' key).map Record.plain)
    {record record' : Record} (hr : record.plain = record'.plain) :
    ofRecord? old active record = ofRecord? old' active record' := by
  rw [ofRecord?_eq_change?, ofRecord?_eq_change?, ← change?_plain, h, hr, Record.key_of_plain hr,
    change?_plain]

/-- The comparison of lists that say the same finds the same changes. -/
theorem changes_of_presents {old old' latest latest' : List Record}
    (h : ∀ key, (find? old key).map Record.plain = (find? old' key).map Record.plain)
    (hl : Presents latest latest') (active : List String) :
    changes old latest active = changes old' latest' active := by
  have hlast := hl.find?
  cases hl with
  | same =>
    have hold : ofRecord? old active = ofRecord? old' active :=
      funext fun record => ofRecord?_of_find? h rfl
    rw [changes, changes, hold]
  | rearranged hd hp =>
    refine (sorted_changes old latest active).ext_get? (sorted_changes old' latest' active)
      fun key => ?_
    rw [get?_changes_of_nodup old active hd,
      get?_changes_of_nodup old' active ((keys_perm hp).nodup_iff.mp hd)]
    have hkey := hlast key
    cases hf : find? latest key with
    | none =>
      rw [hf, Option.map_none] at hkey
      rw [Option.map_eq_none_iff.mp hkey.symm]
      rfl
    | some record =>
      rw [hf, Option.map_some] at hkey
      obtain ⟨record', hf', hplain⟩ := Option.map_eq_some_iff.mp hkey.symm
      rw [hf', Option.bind_some, Option.bind_some]
      exact ofRecord?_of_find? h hplain.symm

end Delta

/-! ### Stored records -/

/-- Two contents of a snapshot's file that are loaded as lists that say the same. -/
structure SameContent (content content' : Option ByteArray) : Prop where
  isSome : content.isSome = content'.isSome
  loaded (collection : String) :
    Ended SameByKey (SnapshotStore.loaded collection content)
      (SnapshotStore.loaded collection content')

theorem SameContent.refl (content : Option ByteArray) : SameContent content content :=
  ⟨rfl, fun _ => .refl SameByKey.refl _⟩

/-- Lists that say the same are stored so that they are loaded as such lists. -/
theorem SameByKey.content {records others : List Record} (h : SameByKey records others) :
    SameContent (some (SnapshotStore.bytesOf records)) (some (SnapshotStore.bytesOf others)) := by
  refine ⟨rfl, fun collection => ?_⟩
  rw [SnapshotStore.loaded_bytesOf, SnapshotStore.loaded_bytesOf]
  have hread := h.reread
  generalize records.mapM Record.reread? = read at hread ⊢
  generalize others.mapM Record.reread? = read' at hread ⊢
  cases hread with
  | none => exact .error StoreError.json
  | some hsame => exact .ok hsame

end RecordWatch
