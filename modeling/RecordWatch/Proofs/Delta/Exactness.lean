import RecordWatch.Proofs.Delta.Ascending
import RecordWatch.Proofs.Record.Text

/-! What a comparison is, said without the way it is computed: which keys have an entry, of which
kind it is, and which names and values it lists. When keys do not repeat, there is exactly one map
of changes like this, and it is the one that is computed. -/

namespace RecordWatch.Delta

/-- A record carries a value of a property, and the record before it carried none or another one. -/
def Differs (before after : Fields Json) (name : String) : Prop :=
  ∃ value, after.get? name = some value ∧
    ∀ old, before.get? name = some old → old.same value = false

theorem differs_iff {before after : Fields Json} {name : String} :
    Differs before after name ↔ (changed? before after name).isSome := by
  constructor
  · rintro ⟨value, hv, hdiffers⟩
    exact (changed?_isSome hv).mpr hdiffers
  · intro h
    obtain ⟨values, hvalues⟩ := Option.isSome_iff_exists.mp h
    have hv := snd_changed? hvalues
    exact ⟨values.2, hv, (changed?_isSome hv).mp h⟩

/-- Old and new values under exactly the active names that differ: the new ones are those of the
record, the old ones those of the record before it, or empty objects. -/
structure Lists (before after : Fields Json) (active : List String) (old new : Fields Json) :
    Prop where
  sorted_old : old.Sorted
  sorted_new : new.Sorted
  differs {name : String} (ha : name ∈ active) (hd : Differs before after name) :
    new.get? name = after.get? name ∧
      old.get? name = some ((before.get? name).getD (.object []))
  nothing {name : String} (h : ¬(name ∈ active ∧ Differs before after name)) :
    new.get? name = none ∧ old.get? name = none

theorem lists_values (before after : Fields Json) (active : List String) :
    Lists before after active (oldValues before after active) (newValues before after active) where
  sorted_old := Fields.sorted_ofList _
  sorted_new := Fields.sorted_ofList _
  differs {name} ha hd := by
    obtain ⟨values, hvalues⟩ := Option.isSome_iff_exists.mp (differs_iff.mp hd)
    rw [get?_newValues, get?_oldValues, if_pos ha, if_pos ha, hvalues, snd_changed? hvalues,
      ← fst_changed? hvalues]
    exact ⟨rfl, rfl⟩
  nothing {name} h := by
    rw [get?_newValues, get?_oldValues]
    by_cases ha : name ∈ active
    · have hnone : changed? before after name = none := by
        rw [← Option.not_isSome_iff_eq_none, ← differs_iff]
        exact fun hd => h ⟨ha, hd⟩
      rw [if_pos ha, if_pos ha, hnone]
      exact ⟨rfl, rfl⟩
    · rw [if_neg ha, if_neg ha]
      exact ⟨rfl, rfl⟩

/-- There is one way to list them. -/
theorem Lists.unique {before after old new old' new' : Fields Json} {active : List String}
    (h : Lists before after active old new) (h' : Lists before after active old' new') :
    old = old' ∧ new = new' := by
  have hagree : ∀ name, old.get? name = old'.get? name ∧ new.get? name = new'.get? name := by
    intro name
    by_cases hname : name ∈ active ∧ Differs before after name
    · obtain ⟨hnew, hold⟩ := h.differs hname.1 hname.2
      obtain ⟨hnew', hold'⟩ := h'.differs hname.1 hname.2
      exact ⟨hold.trans hold'.symm, hnew.trans hnew'.symm⟩
    · obtain ⟨hnew, hold⟩ := h.nothing hname
      obtain ⟨hnew', hold'⟩ := h'.nothing hname
      exact ⟨hold.trans hold'.symm, hnew.trans hnew'.symm⟩
  exact ⟨h.sorted_old.ext_get? h'.sorted_old fun name => (hagree name).1,
    h.sorted_new.ext_get? h'.sorted_new fun name => (hagree name).2⟩

/-- Something is listed exactly if an active name differs. -/
theorem changedProperties_eq_nil_iff {before after : Fields Json} {active : List String} :
    changedProperties before after active = [] ↔
      ¬∃ name ∈ active, Differs before after name := by
  rw [changedProperties, List.filterMap_eq_nil_iff, not_exists]
  refine forall_congr' fun name => ?_
  rw [Option.map_eq_none_iff, not_and, differs_iff, Option.not_isSome_iff_eq_none]

/-- The changes of the latest records since the old ones. A key that only the latest records have is
new. One that both have is changed if an active name differs. No other key has an entry. -/
structure IsDelta (old latest : List Record) (active : List String) (result : Changes) :
    Prop where
  sorted : result.Sorted
  new {record : Record} (hr : record ∈ latest) (hn : ∀ before ∈ old, before.key ≠ record.key) :
    result.get? record.key = some (.newPage record.key)
  changed {record before : Record} (hr : record ∈ latest) (hb : before ∈ old)
    (hk : before.key = record.key)
    (hd : ∃ name ∈ active, Differs before.properties record.properties name) :
    ∃ former current, result.get? record.key = some (.propertyChanged former current) ∧
      Lists before.properties record.properties active former current
  unchanged {record before : Record} (hr : record ∈ latest) (hb : before ∈ old)
    (hk : before.key = record.key)
    (hd : ¬∃ name ∈ active, Differs before.properties record.properties name) :
    result.get? record.key = none
  absent {key : String} (h : ∀ record ∈ latest, record.key ≠ key) : result.get? key = none

section

variable {old latest : List Record} {active : List String}

theorem isDelta_changes (ho : (old.map Record.key).Nodup) (hl : (latest.map Record.key).Nodup) :
    IsDelta old latest active (changes old latest active) where
  sorted := sorted_changes old latest active
  new {record} hr hn := by
    have hfind : find? old record.key = none := by
      rw [find?_eq_none, List.mem_map]
      rintro ⟨before, hb, hk⟩
      exact hn before hb hk
    rw [get?_changes_of_mem old active hl hr, ofRecord?_of_new hfind]
  changed {record before} hr hb hk hd := by
    have hfind : find? old record.key = some before := hk ▸ find?_of_mem ho hb
    have hne : changedProperties before.properties record.properties active ≠ [] :=
      fun hnil => changedProperties_eq_nil_iff.mp hnil hd
    rw [get?_changes_of_mem old active hl hr, ofRecord?_of_changed hfind hne]
    exact ⟨_, _, rfl, lists_values _ _ _⟩
  unchanged {record before} hr hb hk hd := by
    have hfind : find? old record.key = some before := hk ▸ find?_of_mem ho hb
    rw [get?_changes_of_mem old active hl hr]
    exact ofRecord?_of_unchanged hfind (changedProperties_eq_nil_iff.mpr hd)
  absent {key} h := by
    refine get?_changes_of_not_mem old active fun hm => ?_
    obtain ⟨record, hr, hk⟩ := List.mem_map.mp hm
    exact h record hr hk

/-- The rules leave no choice: two maps that obey them have the same entry of every key. -/
theorem IsDelta.get?_eq {result result' : Changes} (h : IsDelta old latest active result)
    (h' : IsDelta old latest active result') (key : String) :
    result.get? key = result'.get? key := by
  by_cases hk : ∃ record ∈ latest, record.key = key
  · obtain ⟨record, hr, rfl⟩ := hk
    by_cases ho : ∃ before ∈ old, before.key = record.key
    · obtain ⟨before, hb, hkey⟩ := ho
      by_cases hd : ∃ name ∈ active, Differs before.properties record.properties name
      · obtain ⟨former, current, hentry, hlists⟩ := h.changed hr hb hkey hd
        obtain ⟨former', current', hentry', hlists'⟩ := h'.changed hr hb hkey hd
        obtain ⟨rfl, rfl⟩ := hlists.unique hlists'
        rw [hentry, hentry']
      · rw [h.unchanged hr hb hkey hd, h'.unchanged hr hb hkey hd]
    · have hn : ∀ before ∈ old, before.key ≠ record.key :=
        fun before hb hkey => ho ⟨before, hb, hkey⟩
      rw [h.new hr hn, h'.new hr hn]
  · have hn : ∀ record ∈ latest, record.key ≠ key := fun record hr hkey => hk ⟨record, hr, hkey⟩
    rw [h.absent hn, h'.absent hn]

/-- When keys do not repeat, what is computed is the one map that obeys the rules. -/
theorem isDelta_iff (ho : (old.map Record.key).Nodup) (hl : (latest.map Record.key).Nodup)
    (result : Changes) : IsDelta old latest active result ↔ result = changes old latest active := by
  constructor
  · intro h
    have hdelta : IsDelta old latest active (changes old latest active) := isDelta_changes ho hl
    exact h.sorted.ext_get? hdelta.sorted (h.get?_eq hdelta)
  · rintro rfl
    exact isDelta_changes ho hl

end

/-- A note that is rewritten, one that stays, and a page that is new, with an active name that is
listed twice and one that no record carries. -/
theorem isDelta_notes :
    IsDelta [noted "a", { noted "b" with id := "m-1" }]
      [{ noted "b" with id := "m1" }, { noted "c" with id := "n1" }, { noted "d" with id := "p-1" }]
      ["Note", "Due", "Note"]
      [("n1", .propertyChanged [("Note", .string "a")] [("Note", .string "c")]),
        ("p1", .newPage "p1")] :=
  (isDelta_iff (by decide +kernel) (by decide +kernel) _).mpr rfl

end RecordWatch.Delta
