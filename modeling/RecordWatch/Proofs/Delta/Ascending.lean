import RecordWatch.Proofs.Delta.Entries

/-! The changes in ascending order. When keys do not repeat, a comparison with a list of records is
the comparison with a map from keys to records: the latest records are taken in the order of their
keys, and each is compared with the record that the map has for its key. -/

namespace RecordWatch

namespace Fields

variable {α : Type}

theorem get?_eq_some_iff {fields : Fields α} (h : fields.Sorted) {key : String} {value : α} :
    fields.get? key = some value ↔ (key, value) ∈ fields := by
  refine ⟨get?_eq_some_mem, fun hm => ?_⟩
  induction fields with
  | nil => cases hm
  | cons entry rest ih =>
    obtain ⟨name, other⟩ := entry
    obtain ⟨hfirst, hrest⟩ := List.pairwise_cons.mp h
    rw [get?_cons]
    rcases List.mem_cons.mp hm with heq | hm
    · cases heq
      rw [if_pos rfl]
    · rw [if_neg (String.ne_of_lt (hfirst _ hm)), ih hrest hm]

/-- Sorted fields with the same bindings are the same list. -/
theorem Sorted.ext {a b : Fields α} (ha : a.Sorted) (hb : b.Sorted)
    (h : ∀ entry, entry ∈ a ↔ entry ∈ b) : a = b := by
  have hne : ∀ x y : String × α, x.1 < y.1 → x ≠ y := by
    rintro x y hlt rfl
    exact String.lt_irrefl x.1 hlt
  have hperm : a.Perm b :=
    (List.perm_ext_iff_of_nodup (ha.imp (hne _ _)) (hb.imp (hne _ _))).mpr h
  refine hperm.eq_of_pairwise (fun x y _ _ hxy hyx => ?_) ha hb
  exact absurd (String.lt_trans hxy hyx) (String.lt_irrefl x.1)

theorem Sorted.ext_get? {a b : Fields α} (ha : a.Sorted) (hb : b.Sorted)
    (h : ∀ name, a.get? name = b.get? name) : a = b :=
  ha.ext hb fun entry => by rw [← get?_eq_some_iff ha, ← get?_eq_some_iff hb, h entry.1]

end Fields

namespace Delta

/-- The change of a record since the last one of its key, if there was one. -/
def change? (active : List String) (before : Option Record) (record : Record) :
    Option ChangeSet :=
  match before with
  | none => some (.newPage record.key)
  | some before =>
    match changedProperties before.properties record.properties active with
    | [] => none
    | changes =>
      some (.propertyChanged (Fields.ofList (changes.map fun (name, old, _) => (name, old)))
        (Fields.ofList (changes.map fun (name, _, new) => (name, new))))

/-- The changes of records since the known ones, in the order of their keys. -/
def ascending (known : String → Option Record) (latest : List Record) (active : List String) :
    List (String × ChangeSet) :=
  (latest.mergeSort fun a b => a.key ≤ b.key).filterMap fun record =>
    (change? active (known record.key) record).map (record.key, ·)

theorem ofRecord?_eq_change? (old : List Record) (active : List String) (record : Record) :
    ofRecord? old active record = change? active (find? old record.key) record := by
  rw [ofRecord?]
  cases find? old record.key <;> rfl

theorem mem_changes {old latest : List Record} {active : List String}
    (hd : (latest.map Record.key).Nodup) {key : String} {change : ChangeSet} :
    (key, change) ∈ changes old latest active ↔
      ∃ record ∈ latest, record.key = key ∧ ofRecord? old active record = some change := by
  rw [← Fields.get?_eq_some_iff (sorted_changes old latest active)]
  constructor
  · intro h
    by_cases hm : key ∈ latest.map Record.key
    · obtain ⟨record, hr, rfl⟩ := List.mem_map.mp hm
      exact ⟨record, hr, rfl, by rw [← h, get?_changes_of_mem old active hd hr]⟩
    · rw [get?_changes_of_not_mem old active hm] at h
      cases h
  · rintro ⟨record, hr, rfl, h⟩
    rw [get?_changes_of_mem old active hd hr, h]

theorem mem_ascending {known : String → Option Record} {latest : List Record}
    {active : List String} {key : String} {change : ChangeSet} :
    (key, change) ∈ ascending known latest active ↔
      ∃ record ∈ latest, record.key = key ∧
        change? active (known record.key) record = some change := by
  rw [ascending, List.mem_filterMap]
  refine exists_congr fun record => ?_
  rw [List.mem_mergeSort]
  refine and_congr_right fun _ => ?_
  rw [Option.map_eq_some_iff]
  constructor
  · rintro ⟨found, hfound, heq⟩
    cases heq
    exact ⟨rfl, hfound⟩
  · rintro ⟨rfl, hfound⟩
    exact ⟨change, hfound, rfl⟩

theorem sorted_ascending (known : String → Option Record) {latest : List Record}
    (active : List String) (hd : (latest.map Record.key).Nodup) :
    Fields.Sorted (ascending known latest active) := by
  rw [ascending]
  have hle := @List.pairwise_mergeSort Record (fun a b => decide (a.key ≤ b.key))
    (fun a b c hab hbc => decide_eq_true
      (String.le_trans (of_decide_eq_true hab) (of_decide_eq_true hbc)))
    (fun a b => by
      rcases String.le_total a.key b.key with h | h
      · rw [decide_eq_true h, Bool.true_or]
      · rw [decide_eq_true h, Bool.or_true]) latest
  have hnodup : ((latest.mergeSort fun a b => a.key ≤ b.key).map Record.key).Nodup :=
    ((List.mergeSort_perm latest _).map Record.key).nodup_iff.mpr hd
  rw [List.Nodup, List.pairwise_map] at hnodup
  refine List.Pairwise.filterMap _ (fun a b hab x hx y hy => ?_) (hle.and hnodup)
  obtain ⟨-, -, rfl⟩ := Option.map_eq_some_iff.mp hx
  obtain ⟨-, -, rfl⟩ := Option.map_eq_some_iff.mp hy
  exact String.not_le.mp fun h => hab.2 (String.le_antisymm (of_decide_eq_true hab.1) h)

/-- When keys do not repeat, the changes are those since the stored records, in ascending order. -/
theorem changes_eq_ascending (old : List Record) {latest : List Record} (active : List String)
    (hd : (latest.map Record.key).Nodup) :
    changes old latest active = ascending (find? old) latest active := by
  refine (sorted_changes old latest active).ext (sorted_ascending _ active hd) fun entry => ?_
  obtain ⟨key, change⟩ := entry
  rw [mem_changes hd, mem_ascending]
  simp only [ofRecord?_eq_change?]

end Delta

end RecordWatch
