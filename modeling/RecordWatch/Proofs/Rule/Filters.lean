import RecordWatch.Proofs.Snapshot.Unchanged
import RecordWatch.Session

/-! The filters of a collection's rules. Each rule brings its own filter or falls back to the
lookback, and a filter that is equal to one before it is left out. -/

namespace RecordWatch

/-- The filter for what a rule needs: its own, or else the lookback. -/
def Rule.effectiveFilter? (rule : Rule) (lookback : Option Json) : Option Json :=
  rule.contentFilter <|> lookback

namespace Collection

/-- Some filters with that of one more rule. -/
def addFilter? (lookback : Option Json) (filters : List Json) (rule : Rule) :
    Option (List Json) := do
  let filter ← rule.effectiveFilter? lookback
  return if filters.any filter.same then filters else filters ++ [filter]

/-- What becomes of filters with those of some rules: none is lost, each rule finds one equal to its
own, and there are no others. -/
structure Combines (lookback : Option Json) (rules : List Rule) (filters all : List Json) :
    Prop where
  kept {filter : Json} (h : filter ∈ filters) : filter ∈ all
  covered {rule : Rule} (h : rule ∈ rules) : ∃ filter,
    rule.effectiveFilter? lookback = some filter ∧ ∃ other ∈ all, filter.same other = true
  needed {filter : Json} (h : filter ∈ all) : filter ∈ filters ∨
    ∃ rule ∈ rules, rule.effectiveFilter? lookback = some filter

variable {lookback : Option Json} {filters next all : List Json}

theorem combines_addFilter? {rule : Rule} (h : addFilter? lookback filters rule = some all) :
    Combines lookback [rule] filters all := by
  obtain ⟨filter, hf, hall⟩ := Option.bind_eq_some_iff.mp h
  obtain rfl := Option.some.inj hall
  by_cases hany : filters.any filter.same
  · rw [if_pos hany]
    obtain ⟨other, ho, hsame⟩ := List.any_eq_true.mp hany
    refine ⟨fun h => h, fun hr => ?_, .inl⟩
    rw [List.mem_singleton.mp hr]
    exact ⟨filter, hf, other, ho, hsame⟩
  · rw [if_neg hany]
    refine ⟨List.mem_append_left _, fun hr => ?_, fun hmem => ?_⟩
    · rw [List.mem_singleton.mp hr]
      exact ⟨filter, hf, filter, by simp, filter.same_refl⟩
    · refine (List.mem_append.mp hmem).imp_right fun hlast => ?_
      rw [List.mem_singleton.mp hlast]
      exact ⟨rule, List.mem_cons_self, hf⟩

theorem Combines.append {rules more : List Rule} (h : Combines lookback rules filters next)
    (h' : Combines lookback more next all) : Combines lookback (rules ++ more) filters all where
  kept hf := h'.kept (h.kept hf)
  covered hr := by
    rcases List.mem_append.mp hr with hr | hr
    · obtain ⟨filter, hf, other, ho, hsame⟩ := h.covered hr
      exact ⟨filter, hf, other, h'.kept ho, hsame⟩
    · exact h'.covered hr
  needed hf := by
    rcases h'.needed hf with hf | ⟨rule, hr, heffective⟩
    · refine (h.needed hf).imp_right fun ⟨rule, hr, heffective⟩ => ?_
      exact ⟨rule, List.mem_append_left _ hr, heffective⟩
    · exact .inr ⟨rule, List.mem_append_right _ hr, heffective⟩

theorem combines_foldlM {rules : List Rule}
    (h : rules.foldlM (addFilter? lookback) filters = some all) :
    Combines lookback rules filters all := by
  induction rules generalizing filters with
  | nil =>
    obtain rfl := Option.some.inj h
    exact ⟨fun hf => hf, fun hr => (List.not_mem_nil hr).elim, .inl⟩
  | cons rule rest ih =>
    rw [List.foldlM_cons] at h
    obtain ⟨next, hnext, hrest⟩ := Option.bind_eq_some_iff.mp h
    exact (combines_addFilter? hnext).append (ih hrest)

theorem foldlM_eq_none_iff {rules : List Rule} :
    rules.foldlM (addFilter? lookback) filters = none ↔
      ∃ rule ∈ rules, rule.effectiveFilter? lookback = none := by
  induction rules generalizing filters with
  | nil => simp
  | cons rule rest ih =>
    simp only [List.foldlM_cons, List.mem_cons, exists_eq_or_imp]
    cases hf : rule.effectiveFilter? lookback with
    | none => simp [addFilter?, hf]
    | some filter =>
      rw [addFilter?, hf]
      simpa using ih

/-- The filters of rules, unless one of them needs every record. -/
theorem combines_filters? {rules : List Rule} (h : filters? lookback rules = some all) :
    Combines lookback rules [] all :=
  combines_foldlM h

theorem filters?_eq_none_iff {rules : List Rule} : filters? lookback rules = none ↔
    ∃ rule ∈ rules, rule.effectiveFilter? lookback = none :=
  foldlM_eq_none_iff

end Collection

end RecordWatch
