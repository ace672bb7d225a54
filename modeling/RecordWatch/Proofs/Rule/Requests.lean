import Mathlib.Data.Fintype.EquivFin
import RecordWatch.Proofs.Rule.ActiveProperties

/-! What the query of a collection asks for. A rule that lists no property ids asks for every
property as long as no rule of its collection lists any. Beside one that does, the query asks only
for what is listed, the rule without a list loses all the rest, and on properties that are not
returned it stays silent. -/

namespace RecordWatch

/-- Whether a query for these property ids returns a property; without ids it returns every one. -/
def Fetches : Option (List String) → String → Prop
  | none, _ => True
  | some ids, property => property ∈ ids

namespace Collection

/-- The collection's query returns every property that a rule's own query would return. -/
def Serves (c : Collection) (rule : Rule) : Prop :=
  ∀ property, Fetches (filterProperties ⟨c.id, [rule]⟩) property →
    Fetches c.filterProperties property

variable {c : Collection} {rule : Rule}

theorem fetches_iff {property : String} : Fetches c.filterProperties property ↔
    (∀ rule ∈ c.rules, rule.filterProperties = []) ∨
      ∃ rule ∈ c.rules, property ∈ rule.filterProperties := by
  have hlisted : property ∈ distinct (c.rules.flatMap Rule.filterProperties) ↔
      ∃ rule ∈ c.rules, property ∈ rule.filterProperties := by
    rw [mem_distinct, List.mem_flatMap]
  rw [filterProperties]
  cases hd : distinct (c.rules.flatMap Rule.filterProperties) with
  | nil =>
    refine iff_of_true trivial (.inl ?_)
    refine List.flatMap_eq_nil_iff.mp (List.eq_nil_iff_forall_not_mem.mpr fun id hid => ?_)
    rw [← mem_distinct, hd] at hid
    cases hid
  | cons id rest =>
    rw [hd] at hlisted
    show property ∈ id :: rest ↔ _
    rw [hlisted]
    refine ⟨.inr, ?_⟩
    rintro (hall | hsome)
    · rw [List.flatMap_eq_nil_iff.mpr hall] at hd
      cases hd
    · exact hsome

theorem fetches_alone {id property : String} :
    Fetches (filterProperties ⟨id, [rule]⟩) property ↔
      rule.filterProperties = [] ∨ property ∈ rule.filterProperties := by
  rw [fetches_iff]
  simp

/-- A query for some property ids leaves some property out. -/
theorem exists_not_fetches (h : ∃ rule ∈ c.rules, rule.filterProperties ≠ []) :
    ∃ property, ¬Fetches c.filterProperties property := by
  obtain ⟨property, hp⟩ :=
    Infinite.exists_notMem_finset (c.rules.flatMap Rule.filterProperties).toFinset
  refine ⟨property, fun hf => ?_⟩
  obtain ⟨rule, hr, hne⟩ := h
  rcases fetches_iff.mp hf with hall | ⟨other, ho, hlisted⟩
  · exact hne (hall rule hr)
  · exact hp (List.mem_toFinset.mpr (List.mem_flatMap.mpr ⟨other, ho, hlisted⟩))

/-- The order of the rules does not matter. -/
theorem fetches_perm {id property : String} {rules others : List Rule} (h : rules.Perm others) :
    Fetches (filterProperties ⟨id, rules⟩) property ↔
      Fetches (filterProperties ⟨id, others⟩) property := by
  rw [fetches_iff, fetches_iff]
  simp only [h.mem_iff]

/-- A rule is served exactly if it lists property ids or no rule does. -/
theorem serves_iff (h : rule ∈ c.rules) :
    c.Serves rule ↔
      rule.filterProperties ≠ [] ∨ ∀ other ∈ c.rules, other.filterProperties = [] := by
  constructor
  · intro hs
    by_contra hnot
    rw [not_or, not_not] at hnot
    obtain ⟨hnil, hsome⟩ := hnot
    have hlists : ∃ other ∈ c.rules, other.filterProperties ≠ [] := by
      by_contra hnone
      exact hsome fun other ho => by_contra fun hne => hnone ⟨other, ho, hne⟩
    obtain ⟨property, hp⟩ := exists_not_fetches hlists
    exact hp (hs property (fetches_alone.mpr (.inl hnil)))
  · intro hserved property hf
    rcases hserved with hne | hall
    · have hlisted := (fetches_alone.mp hf).resolve_left hne
      exact fetches_iff.mpr (.inr ⟨rule, h, hlisted⟩)
    · exact fetches_iff.mpr (.inl hall)

section

variable {id : String} {before after : List Rule} {added : Rule}

theorem mem_added : rule ∈ before ++ added :: after ↔ rule = added ∨ rule ∈ before ++ after := by
  rw [List.mem_append, List.mem_cons, List.mem_append, or_left_comm]

/-- One more rule narrows the query exactly if it is the first that lists property ids. -/
theorem fetches_added_iff :
    (∀ property, Fetches (filterProperties ⟨id, before ++ after⟩) property →
      Fetches (filterProperties ⟨id, before ++ added :: after⟩) property) ↔
        added.filterProperties = [] ∨ ∃ rule ∈ before ++ after, rule.filterProperties ≠ [] := by
  constructor
  · intro h
    by_contra hnot
    rw [not_or] at hnot
    obtain ⟨hne, hnone⟩ := hnot
    obtain ⟨property, hp⟩ := @exists_not_fetches ⟨id, before ++ added :: after⟩
      ⟨added, mem_added.mpr (.inl rfl), hne⟩
    have hall : ∀ rule ∈ before ++ after, rule.filterProperties = [] :=
      fun rule hr => by_contra fun hlists => hnone ⟨rule, hr, hlists⟩
    exact hp (h property (fetches_iff.mpr (.inl hall)))
  · intro h property hf
    rw [fetches_iff] at hf ⊢
    rcases hf with hall | ⟨rule, hr, hlisted⟩
    · rcases h with hnil | ⟨rule, hr, hne⟩
      · refine .inl fun rule hr => ?_
        rcases mem_added.mp hr with rfl | hr
        · exact hnil
        · exact hall rule hr
      · exact absurd (hall rule hr) hne
    · exact .inr ⟨rule, mem_added.mpr (.inr hr), hlisted⟩

/-- A rule that was served still is beside one more rule, unless only the new one lists property
ids. -/
theorem serves_added_iff (hr : rule ∈ before ++ after) (hs : Serves ⟨id, before ++ after⟩ rule) :
    Serves ⟨id, before ++ added :: after⟩ rule ↔
      rule.filterProperties ≠ [] ∨ added.filterProperties = [] := by
  rw [serves_iff (mem_added.mpr (.inr hr))]
  refine or_congr_right' fun hnil => ?_
  have hall := ((serves_iff hr).mp hs).resolve_left hnil
  constructor
  · exact fun h => h added (mem_added.mpr (.inl rfl))
  · intro hadded other ho
    rcases mem_added.mp ho with rfl | ho
    · exact hadded
    · exact hall other ho

end

end Collection

/-- What the query for some rules returns to each of them, and what one more rule changes. -/
structure Requests (id : String) (rules : List Rule) : Prop where
  serves (rule : Rule) (h : rule ∈ rules) : Collection.Serves ⟨id, rules⟩ rule ↔
    rule.filterProperties ≠ [] ∨ ∀ other ∈ rules, other.filterProperties = []
  order (others : List Rule) (h : rules.Perm others) (property : String) :
    Fetches (Collection.filterProperties ⟨id, rules⟩) property ↔
      Fetches (Collection.filterProperties ⟨id, others⟩) property
  added (before after : List Rule) (added : Rule) (h : rules = before ++ after) :
    (∀ property, Fetches (Collection.filterProperties ⟨id, rules⟩) property →
      Fetches (Collection.filterProperties ⟨id, before ++ added :: after⟩) property) ↔
        added.filterProperties = [] ∨ ∃ rule ∈ rules, rule.filterProperties ≠ []
  kept (before after : List Rule) (added : Rule) (h : rules = before ++ after) (rule : Rule)
    (hr : rule ∈ rules) (hs : Collection.Serves ⟨id, rules⟩ rule) :
    Collection.Serves ⟨id, before ++ added :: after⟩ rule ↔
      rule.filterProperties ≠ [] ∨ added.filterProperties = []

/-- A query starves exactly the rules without property ids beside a rule that lists some. -/
theorem requests (id : String) (rules : List Rule) : Requests id rules where
  serves rule h := Collection.serves_iff h
  order others h property := Collection.fetches_perm h
  added before after added h := by
    subst h
    exact Collection.fetches_added_iff
  kept before after added h rule hr hs := by
    subst h
    exact Collection.serves_added_iff hr hs

/-- A rule that lists one property id. -/
def dueEntry : RuleEntry := { doneEntry with filterProperties := ["du"] }

/-- The rule without property ids is not served beside the one that lists one. -/
theorem not_serves_done :
    ¬Collection.Serves ⟨"c1", [doneEntry.toRule 0, dueEntry.toRule 1]⟩ (doneEntry.toRule 0) := by
  rw [Collection.serves_iff List.mem_cons_self]
  rintro (hlists | hall)
  · exact hlists rfl
  · cases hall (dueEntry.toRule 1) (List.mem_cons_of_mem _ List.mem_cons_self)

/-! ### Starved rules -/

/-- A rule stays silent on a stored record if what the query returned of it has none of the
properties that the rule reads. -/
theorem not_firesOn_of_lacking {σ : Type} (context : Context (StateM σ)) {rule : Rule}
    (hg : rule.trigger.Grouped) {old latest : List Record} {key : String}
    (hk : (Delta.find? old key).isSome)
    (hl : ∀ record ∈ latest, record.key = key → ∀ name ∈ rule.trigger.mentions,
      record.properties.get? name = none) (active : List String) (s : σ) :
    rule.firesOn context (Delta.changes old latest active) key s = false := by
  rw [Rule.firesOn]
  cases hc : (Delta.changes old latest active).get? key with
  | none => rfl
  | some change =>
    rw [Delta.get?_changes] at hc
    obtain ⟨record, hr, hchange⟩ := List.exists_of_findSome?_eq_some hc
    split at hchange
    · next heq =>
      subst heq
      obtain ⟨before, hbefore⟩ := Option.isSome_iff_exists.mp hk
      by_cases hnil : Delta.changedProperties before.properties record.properties active = []
      · rw [Delta.ofRecord?_of_unchanged hbefore hnil] at hchange
        cases hchange
      · rw [Delta.ofRecord?_of_changed hbefore hnil] at hchange
        cases hchange
        refine Trigger.fires_of_unmentioned context record.key rule.trigger hg (fun name hn => ?_) s
        have hnone := hl record (List.mem_reverse.mp hr) rfl name hn
        rw [Delta.get?_newValues, Delta.changed?, hnone]
        exact ite_self none
    · cases hchange

end RecordWatch
