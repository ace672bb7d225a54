import RecordWatch.Proofs.Snapshot.Overlay

/-! Latest records that say nothing new. Where every latest record is structurally equal to the
stored one of its key, the comparison finds no change, and the overlay is equal to what is stored
record by record; only doubles and the signs of zeros may be written differently. -/

namespace RecordWatch

theorem Number.same_refl (n : Number) : n.same n = true := by
  cases n with
  | integer i => exact beq_self_eq_true i
  | double x => exact beq_self_eq_true x.key

namespace Json

mutual

theorem same_refl : (value : Json) → value.same value = true
  | .null => rfl
  | .bool b => beq_self_eq_true b
  | .number n => Number.same_refl n
  | .string s => beq_self_eq_true s
  | .array items => sameItems_refl items
  | .object fields => sameFields_refl fields

theorem sameItems_refl : (items : List Json) → sameItems items items = true
  | [] => rfl
  | item :: rest => by rw [sameItems, same_refl item, sameItems_refl rest]; rfl

theorem sameFields_refl : (fields : List (String × Json)) → sameFields fields fields = true
  | [] => rfl
  | (name, value) :: rest => by
    rw [sameFields, same_refl value, sameFields_refl rest, beq_self_eq_true]
    rfl

end

/-- Equal fields have equal values of every name. -/
theorem sameFields_get? {fields others : Fields Json} (h : sameFields fields others = true)
    {name : String} {value : Json} (hv : others.get? name = some value) :
    ∃ old, fields.get? name = some old ∧ old.same value = true := by
  induction fields generalizing others with
  | nil =>
    cases others with
    | nil => simp at hv
    | cons _ _ => simp [sameFields] at h
  | cons field fields ih =>
    obtain ⟨key, old⟩ := field
    cases others with
    | nil => simp [sameFields] at h
    | cons other others =>
      obtain ⟨key', new⟩ := other
      simp only [sameFields, Bool.and_eq_true, beq_iff_eq] at h
      obtain ⟨⟨rfl, hsame⟩, hrest⟩ := h
      rw [Fields.get?_cons] at hv ⊢
      by_cases hk : key = name
      · rw [if_pos hk] at hv ⊢
        cases hv
        exact ⟨old, rfl, hsame⟩
      · rw [if_neg hk] at hv ⊢
        exact ih hrest hv

end Json

/-- Structural equality of records. -/
structure Record.Same (old new : Record) : Prop where
  id : old.id = new.id
  createdTime : old.createdTime = new.createdTime
  lastEditedTime : old.lastEditedTime = new.lastEditedTime
  properties : Json.sameFields old.properties new.properties = true

theorem Record.Same.refl (r : Record) : r.Same r :=
  ⟨rfl, rfl, rfl, Json.sameFields_refl r.properties⟩

theorem Record.Same.key {old new : Record} (h : old.Same new) : old.key = new.key := by
  rw [Record.key, Record.key, h.id]

theorem keys_of_same {stored records : List Record}
    (h : List.Forall₂ Record.Same stored records) :
    stored.map Record.key = records.map Record.key := by
  induction h with
  | nil => rfl
  | cons hk _ ih => rw [List.map_cons, List.map_cons, hk.key, ih]

/-- Every latest record is equal to the stored one of its key. -/
def Unchanged (stored latest : List Record) : Prop :=
  ∀ record ∈ latest, ∃ old, Delta.find? stored record.key = some old ∧ old.Same record

namespace Unchanged

variable {stored latest : List Record}

theorem changed? {old record : Record} (h : old.Same record) (name : String) :
    Delta.changed? old.properties record.properties name = none := by
  rw [Delta.changed?]
  cases hv : record.properties.get? name with
  | none => rfl
  | some value =>
    obtain ⟨before, hb, hsame⟩ := Json.sameFields_get? h.properties hv
    simp [hb, hsame]

theorem ofRecord? (h : Unchanged stored latest) (active : List String) {record : Record}
    (hr : record ∈ latest) : Delta.ofRecord? stored active record = none := by
  obtain ⟨old, hf, hsame⟩ := h record hr
  refine Delta.ofRecord?_of_unchanged hf ?_
  rw [Delta.changedProperties, List.filterMap_eq_nil_iff]
  intro name _
  rw [changed? hsame name]
  rfl

theorem init {record : Record} (h : Unchanged stored (latest ++ [record])) :
    Unchanged stored latest := fun other ho => h other (List.mem_append_left _ ho)

/-- Nothing changed. -/
theorem changes (h : Unchanged stored latest) (active : List String) :
    Delta.changes stored latest active = [] := by
  induction latest using List.reverseRecOn with
  | nil => rfl
  | append_singleton latest record ih =>
    rw [Delta.changes_append_singleton, h.ofRecord? active (by simp), ih h.init]

theorem replaceLast? {records replaced : List Record} (hs : List.Forall₂ Record.Same stored records)
    {record old : Record} (hf : Delta.find? stored record.key = some old) (ho : old.Same record)
    (hr : Snapshot.replaceLast? record records = some replaced) :
    List.Forall₂ Record.Same stored replaced := by
  induction hs generalizing replaced with
  | nil => cases hr
  | @cons first first' rest rest' hfirst hrest ih =>
    rw [Snapshot.replaceLast?] at hr
    rw [Delta.find?_cons] at hf
    cases hl : Snapshot.replaceLast? record rest' with
    | some others =>
      rw [hl] at hr
      cases hr
      have hmem : record.key ∈ rest.map Record.key := by
        rw [keys_of_same hrest]
        by_contra hnot
        rw [Snapshot.replaceLast?_none.mpr hnot] at hl
        cases hl
      obtain ⟨found, hfound⟩ := Option.isSome_iff_exists.mp (Delta.find?_isSome.mpr hmem)
      rw [hfound, Option.some_or] at hf
      exact .cons hfirst (ih (by rw [hfound, hf]) hl)
    | none =>
      rw [hl] at hr
      dsimp only at hr
      split at hr
      · next heq =>
        cases hr
        have hnot : record.key ∉ rest.map Record.key := by
          rw [keys_of_same hrest]
          exact Snapshot.replaceLast?_none.mp hl
        rw [Delta.find?_eq_none.mpr hnot, if_pos (hfirst.key.trans heq)] at hf
        cases hf
        exact .cons ho hrest
      · cases hr

theorem put {records : List Record} (hs : List.Forall₂ Record.Same stored records)
    {record old : Record} (hf : Delta.find? stored record.key = some old) (ho : old.Same record) :
    List.Forall₂ Record.Same stored (Snapshot.put records record) := by
  rw [Snapshot.put]
  cases hr : Snapshot.replaceLast? record records with
  | some replaced => exact replaceLast? hs hf ho hr
  | none =>
    have hmem : record.key ∈ records.map Record.key := by
      rw [← keys_of_same hs, ← Delta.find?_isSome, hf]
      rfl
    exact absurd hmem (Snapshot.replaceLast?_none.mp hr)

/-- The overlay is what is stored. -/
theorem overlay (h : Unchanged stored latest) :
    List.Forall₂ Record.Same stored (Snapshot.overlay stored latest) := by
  induction latest using List.reverseRecOn with
  | nil => exact List.forall₂_same.mpr fun record _ => Record.Same.refl record
  | append_singleton latest record ih =>
    rw [Snapshot.overlay_append_singleton]
    obtain ⟨old, hf, ho⟩ := h record (by simp)
    exact put (ih h.init) hf ho

end Unchanged

end RecordWatch
