import Mathlib.Data.List.Induction
import RecordWatch.Delta
import RecordWatch.Proofs.Fields

/-! The entries of a comparison. `find?` reads a list of records as a map in which the last record
of a key counts. The changes are sorted by key; the entry of a key is the change of the last record
of that key that changed, and when keys do not repeat it is the change of the one record of the key.
-/

namespace RecordWatch.Delta

/-! ### The record of a key -/

theorem find?_append_singleton (records : List Record) (record : Record) (key : String) :
    find? (records ++ [record]) key =
      if record.key = key then some record else find? records key := by
  rw [find?, List.foldl_append]
  rfl

@[simp] theorem find?_nil (key : String) : find? [] key = none := rfl

theorem find?_eq_find?_reverse (records : List Record) (key : String) :
    find? records key = records.reverse.find? fun record => record.key = key := by
  induction records using List.reverseRecOn with
  | nil => rfl
  | append_singleton records record ih =>
    rw [find?_append_singleton, ih, List.reverse_append]
    by_cases h : record.key = key <;> simp [h]

theorem find?_cons (record : Record) (records : List Record) (key : String) :
    find? (record :: records) key =
      (find? records key).or (if record.key = key then some record else none) := by
  rw [find?_eq_find?_reverse, find?_eq_find?_reverse, List.reverse_cons, List.find?_append]
  by_cases h : record.key = key <;> simp [h]

/-- The last record of a key is among the later records if one of them has the key. -/
theorem find?_append (records more : List Record) (key : String) :
    find? (records ++ more) key = (find? more key).or (find? records key) := by
  rw [find?_eq_find?_reverse, find?_eq_find?_reverse, find?_eq_find?_reverse,
    List.reverse_append, List.find?_append]

theorem find?_some {records : List Record} {key : String} {record : Record}
    (h : find? records key = some record) : record ∈ records ∧ record.key = key := by
  rw [find?_eq_find?_reverse] at h
  exact ⟨List.mem_reverse.mp (List.mem_of_find?_eq_some h), by simpa using List.find?_some h⟩

theorem find?_eq_none {records : List Record} {key : String} :
    find? records key = none ↔ key ∉ records.map Record.key := by
  rw [find?_eq_find?_reverse, List.find?_eq_none]
  simp only [List.mem_reverse, decide_eq_true_eq, List.mem_map, not_exists, not_and]

theorem find?_isSome {records : List Record} {key : String} :
    (find? records key).isSome ↔ key ∈ records.map Record.key := by
  rw [← not_iff_not, ← find?_eq_none]
  simp

/-- When keys do not repeat, every record is the one of its key. -/
theorem find?_of_mem {records : List Record} (hd : (records.map Record.key).Nodup) {record : Record}
    (h : record ∈ records) : find? records record.key = some record := by
  induction records with
  | nil => simp at h
  | cons first rest ih =>
    rw [List.map_cons, List.nodup_cons] at hd
    rw [find?_cons]
    rcases List.mem_cons.mp h with rfl | hr
    · rw [find?_eq_none.mpr hd.1]
      simp
    · rw [ih hd.2 hr]
      rfl

/-! ### The changes -/

/-- One step of `changes`. -/
theorem changes_append_singleton (old latest : List Record) (record : Record)
    (active : List String) :
    changes old (latest ++ [record]) active =
      match ofRecord? old active record with
      | some change => (changes old latest active).put record.key change
      | none => changes old latest active := by
  rw [changes, List.foldl_append]
  rfl

theorem sorted_changes (old latest : List Record) (active : List String) :
    (changes old latest active).Sorted := by
  induction latest using List.reverseRecOn with
  | nil => exact List.Pairwise.nil
  | append_singleton latest record ih =>
    rw [changes_append_singleton]
    split
    · exact ih.put _ _
    · exact ih

/-- The entry of a key is the change of the last record of the key that changed. -/
theorem get?_changes (old latest : List Record) (active : List String) (key : String) :
    (changes old latest active).get? key = latest.reverse.findSome? fun record =>
      if record.key = key then ofRecord? old active record else none := by
  induction latest using List.reverseRecOn with
  | nil => rfl
  | append_singleton latest record ih =>
    rw [changes_append_singleton, List.reverse_append, List.reverse_singleton,
      List.singleton_append, List.findSome?_cons, ← ih]
    cases h : ofRecord? old active record with
    | none => simp
    | some change =>
      simp only [Fields.get?_put]
      split <;> rfl

theorem get?_changes_of_not_mem (old : List Record) {latest : List Record} (active : List String)
    {key : String} (h : key ∉ latest.map Record.key) :
    (changes old latest active).get? key = none := by
  rw [get?_changes, List.findSome?_eq_none_iff]
  intro record hr
  rw [if_neg]
  rintro rfl
  exact h (List.mem_map.mpr ⟨record, List.mem_reverse.mp hr, rfl⟩)

theorem get?_changes_of_mem (old : List Record) {latest : List Record} (active : List String)
    (hd : (latest.map Record.key).Nodup) {record : Record} (h : record ∈ latest) :
    (changes old latest active).get? record.key = ofRecord? old active record := by
  rw [get?_changes]
  cases hc : ofRecord? old active record with
  | none =>
    rw [List.findSome?_eq_none_iff]
    intro other ho
    split
    · next hk =>
      have hother := find?_of_mem hd (List.mem_reverse.mp ho)
      rw [hk, find?_of_mem hd h, Option.some.injEq] at hother
      rw [← hother, hc]
    · rfl
  | some change =>
    have hsome : (latest.reverse.findSome? fun other =>
        if other.key = record.key then ofRecord? old active other else none).isSome :=
      List.findSome?_isSome_iff.mpr ⟨record, List.mem_reverse.mpr h, by simp [hc]⟩
    obtain ⟨change', hchange⟩ := Option.isSome_iff_exists.mp hsome
    obtain ⟨other, ho, hother⟩ := List.exists_of_findSome?_eq_some hchange
    split at hother
    · next hk =>
      have heq := find?_of_mem hd (List.mem_reverse.mp ho)
      rw [hk, find?_of_mem hd h, Option.some.injEq] at heq
      rw [hchange, ← hother, ← heq, hc]
    · simp at hother

/-- Nothing is reported where no record changed. -/
theorem changes_eq_nil_iff {old latest : List Record} {active : List String} :
    changes old latest active = [] ↔ ∀ record ∈ latest, ofRecord? old active record = none := by
  induction latest using List.reverseRecOn with
  | nil => exact iff_of_true rfl (by simp)
  | append_singleton latest record ih =>
    rw [changes_append_singleton]
    cases h : ofRecord? old active record with
    | none =>
      rw [List.forall_mem_append, List.forall_mem_singleton]
      exact ih.trans (and_iff_left h).symm
    | some change =>
      refine iff_of_false (fun hnil => ?_) fun hall => ?_
      · have hget := congrArg (Fields.get? · record.key) hnil
        rw [Fields.get?_put] at hget
        simp at hget
      · rw [hall record (by simp)] at h
        cases h

/-! ### Changed properties -/

theorem map_fst_changedProperties (before after : Fields Json) (active : List String) :
    (changedProperties before after active).map Prod.fst =
      active.filter fun name => (changed? before after name).isSome := by
  induction active with
  | nil => rfl
  | cons name rest ih =>
    rw [changedProperties, List.filterMap_cons, List.filter_cons]
    rw [changedProperties] at ih
    cases h : changed? before after name with
    | none => simpa using ih
    | some values => simpa using ih

theorem mem_changedProperties {before after : Fields Json} {active : List String}
    {entry : String × Json × Json} (h : entry ∈ changedProperties before after active) :
    entry.1 ∈ active ∧ changed? before after entry.1 = some entry.2 := by
  obtain ⟨name, hn, hentry⟩ := List.mem_filterMap.mp h
  obtain ⟨values, hv, rfl⟩ := Option.map_eq_some_iff.mp hentry
  exact ⟨hn, hv⟩

/-- The old values that an entry lists. -/
def oldValues (before after : Fields Json) (active : List String) : Fields Json :=
  Fields.ofList ((changedProperties before after active).map fun (name, old, _) => (name, old))

/-- The new values that an entry lists. -/
def newValues (before after : Fields Json) (active : List String) : Fields Json :=
  Fields.ofList ((changedProperties before after active).map fun (name, _, new) => (name, new))

/-- What is listed of the active properties that changed is found under their names. -/
theorem get?_listed (pick : Json × Json → Json) (before after : Fields Json)
    (active : List String) (name : String) :
    (Fields.ofList ((changedProperties before after active).map
        fun entry => (entry.1, pick entry.2))).get? name =
      if name ∈ active then (changed? before after name).map pick else none := by
  rw [Fields.get?_ofList_of_agrees (f := fun name => (changed? before after name).map pick)]
  · have hmap : ((changedProperties before after active).map
        fun entry => (entry.1, pick entry.2)).map Prod.fst =
        (changedProperties before after active).map Prod.fst := by
      rw [List.map_map]
      rfl
    rw [hmap, map_fst_changedProperties]
    simp only [List.mem_filter]
    cases h : changed? before after name <;> simp
  · intro binding hb
    obtain ⟨entry, he, rfl⟩ := List.mem_map.mp hb
    obtain ⟨-, hc⟩ := mem_changedProperties he
    simp [hc]

/-- The new values are those of the active properties that changed. -/
theorem get?_newValues (before after : Fields Json) (active : List String) (name : String) :
    (newValues before after active).get? name =
      if name ∈ active then (changed? before after name).map Prod.snd else none :=
  get?_listed Prod.snd before after active name

/-- The old values are listed under the same names. -/
theorem get?_oldValues (before after : Fields Json) (active : List String) (name : String) :
    (oldValues before after active).get? name =
      if name ∈ active then (changed? before after name).map Prod.fst else none :=
  get?_listed Prod.fst before after active name

theorem changed?_isSome {before after : Fields Json} {name : String} {value : Json}
    (hv : after.get? name = some value) : (changed? before after name).isSome ↔
      ∀ old, before.get? name = some old → old.same value = false := by
  rw [changed?, hv]
  cases hb : before.get? name with
  | none => simp
  | some old => cases hs : old.same value <;> simp [hs]

theorem snd_changed? {before after : Fields Json} {name : String} {values : Json × Json}
    (h : changed? before after name = some values) : after.get? name = some values.2 := by
  rw [changed?] at h
  split at h
  · cases h
  · next new hnew =>
    rw [hnew]
    split at h
    · cases h
      rfl
    · split at h
      · cases h
      · cases h
        rfl

theorem fst_changed? {before after : Fields Json} {name : String} {values : Json × Json}
    (h : changed? before after name = some values) :
    values.1 = (before.get? name).getD (.object []) := by
  rw [changed?] at h
  split at h
  · cases h
  · split at h
    · next hb =>
      cases h
      rw [hb, Option.getD_none]
    · next old hb =>
      split at h
      · cases h
      · cases h
        rw [hb, Option.getD_some]

/-! ### The change of a record -/

section

variable {old : List Record} {active : List String} {record before : Record}

theorem ofRecord?_of_new (h : find? old record.key = none) :
    ofRecord? old active record = some (.newPage record.key) := by
  rw [ofRecord?, h]

theorem ofRecord?_of_unchanged (h : find? old record.key = some before)
    (hnil : changedProperties before.properties record.properties active = []) :
    ofRecord? old active record = none := by
  simp only [ofRecord?, h, hnil]

theorem ofRecord?_of_changed (h : find? old record.key = some before)
    (hne : changedProperties before.properties record.properties active ≠ []) :
    ofRecord? old active record =
      some (.propertyChanged (oldValues before.properties record.properties active)
        (newValues before.properties record.properties active)) := by
  simp only [ofRecord?, h]
  rfl

/-- A record that is found has changed if one of its active properties has. -/
theorem ofRecord?_eq_none_iff (h : find? old record.key = some before) :
    ofRecord? old active record = none ↔
      changedProperties before.properties record.properties active = [] := by
  refine ⟨fun hnone => ?_, ofRecord?_of_unchanged h⟩
  by_contra hne
  rw [ofRecord?_of_changed h hne] at hnone
  cases hnone

end

end RecordWatch.Delta
