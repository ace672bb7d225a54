import Mathlib.Data.List.Basic
import Mathlib.Data.List.Induction
import RecordWatch.Distinct

/-! Names in the order of their first occurrence: `distinct` keeps every name, once. A list from
which the names at its end are missing is completed by the whole list and by the missing ones
alike. -/

namespace RecordWatch

theorem appendNew_append_singleton (names more : List String) (name : String) :
    appendNew names (more ++ [name]) =
      if name ∈ appendNew names more then appendNew names more
      else appendNew names more ++ [name] := by
  simp [appendNew, List.foldl_append]

theorem mem_appendNew {names more : List String} {name : String} :
    name ∈ appendNew names more ↔ name ∈ names ∨ name ∈ more := by
  induction more generalizing names with
  | nil => simp [appendNew]
  | cons first rest ih =>
    rw [appendNew, List.foldl_cons, ← appendNew, ih, List.mem_cons]
    by_cases h : first ∈ names
    · rw [if_pos (by simpa using h)]
      constructor
      · rintro (hn | hr)
        · exact .inl hn
        · exact .inr (.inr hr)
      · rintro (hn | rfl | hr)
        · exact .inl hn
        · exact .inl h
        · exact .inr hr
    · rw [if_neg (by simpa using h), List.mem_append, List.mem_singleton, or_assoc]

theorem mem_distinct {names : List String} {name : String} :
    name ∈ distinct names ↔ name ∈ names := by
  rw [distinct, mem_appendNew]
  simp

theorem distinct_append_singleton (names : List String) (name : String) :
    distinct (names ++ [name]) =
      if name ∈ distinct names then distinct names else distinct names ++ [name] :=
  appendNew_append_singleton [] names name

theorem nodup_distinct (names : List String) : (distinct names).Nodup := by
  induction names using List.reverseRecOn with
  | nil => exact List.nodup_nil
  | append_singleton names last ih =>
    rw [distinct_append_singleton]
    split
    · exact ih
    · next h => exact List.nodup_append.mpr ⟨ih, List.pairwise_singleton _ _, by grind⟩

/-- What is appended are the names that are not in the list, each once. -/
theorem appendNew_eq (names more : List String) :
    appendNew names more = names ++ distinct (more.filter (· ∉ names)) := by
  induction more using List.reverseRecOn with
  | nil => simp [appendNew, distinct]
  | append_singleton more last ih =>
    rw [appendNew_append_singleton, ih, List.filter_append]
    by_cases hn : last ∈ names
    · simp [hn]
    · have hnew : [last].filter (· ∉ names) = [last] := by simp [hn]
      rw [hnew, distinct_append_singleton, List.append_assoc, ← apply_ite (names ++ ·)]
      simp only [List.mem_append, hn, false_or]

/-- Of two names that are kept, the one that occurs first comes first. -/
theorem pairwise_idxOf_distinct (keep : String → Bool) (names : List String) :
    (distinct (names.filter keep)).Pairwise fun a b => names.idxOf a < names.idxOf b := by
  induction names using List.reverseRecOn with
  | nil => exact List.Pairwise.nil
  | append_singleton names last ih =>
    have hmem : ∀ name ∈ distinct (names.filter keep), name ∈ names := fun name h =>
      (List.mem_filter.mp (mem_distinct.mp h)).1
    have hidx : ∀ name ∈ distinct (names.filter keep),
        (names ++ [last]).idxOf name = names.idxOf name := fun name h =>
      List.idxOf_append_of_mem (hmem name h)
    have hold : (distinct (names.filter keep)).Pairwise fun a b =>
        (names ++ [last]).idxOf a < (names ++ [last]).idxOf b :=
      ih.imp_of_mem fun ha hb h => by rwa [hidx _ ha, hidx _ hb]
    rw [List.filter_append]
    by_cases hkeep : keep last = true
    · rw [List.filter_singleton, hkeep, cond_true, distinct_append_singleton]
      split
      · exact hold
      · next hnew =>
        have hlast : last ∉ names := fun h =>
          hnew (mem_distinct.mpr (List.mem_filter.mpr ⟨h, hkeep⟩))
        refine List.pairwise_append.mpr ⟨hold, List.pairwise_singleton _ _, fun a ha b hb => ?_⟩
        rw [List.mem_singleton.mp hb, hidx a ha, List.idxOf_append_of_notMem hlast]
        have := List.idxOf_lt_length_of_mem (hmem a ha)
        omega
    · simpa [hkeep] using hold

theorem distinct_eq_self {names : List String} (h : names.Nodup) : distinct names = names := by
  induction names using List.reverseRecOn with
  | nil => rfl
  | append_singleton names last ih =>
    obtain ⟨hnames, -, hlast⟩ := List.nodup_append.mp h
    rw [distinct_append_singleton, ih hnames, if_neg]
    exact fun hmem => hlast last hmem last List.mem_cons_self rfl

/-- Names at hand that begin a list without repetitions are completed to it by the whole list, and by
the rest of it. -/
theorem appendNew_of_nodup {names rest : List String} (h : (names ++ rest).Nodup) :
    appendNew names (names ++ rest) = names ++ rest ∧ appendNew names rest = names ++ rest := by
  obtain ⟨-, hrest, hdisjoint⟩ := List.nodup_append.mp h
  have hold : names.filter (· ∉ names) = [] := by simp
  have hnew : rest.filter (· ∉ names) = rest := by
    rw [List.filter_eq_self]
    intro name hname
    simpa using fun hmem => hdisjoint name hmem name hname rfl
  rw [appendNew_eq, appendNew_eq, List.filter_append, hold, hnew, List.nil_append,
    distinct_eq_self hrest]
  exact ⟨rfl, rfl⟩

end RecordWatch
