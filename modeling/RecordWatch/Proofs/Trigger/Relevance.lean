import RecordWatch.Evaluation
import RecordWatch.Proofs.Distinct
import RecordWatch.Proofs.Trigger.Grammar

/-! What a trigger reads. Its verdict on changed properties depends only on the new values of the
properties it mentions, and a trigger whose groups all have children does not fire when none of them
changed. Every trigger that was read has such groups, however malformed its nodes are. -/

namespace RecordWatch

section

variable {m : Type → Type} [Monad m]

theorem Condition.holds_congr (context : Context m) (record property : String)
    (condition : Condition) {old new old' new' : Fields Json}
    (h : new.get? property = new'.get? property) :
    condition.holds context record property (.propertyChanged old new) =
      condition.holds context record property (.propertyChanged old' new') := by
  simp only [Condition.holds, h]

theorem Condition.holds_of_unchanged (context : Context m) (record property : String)
    (condition : Condition) {old new : Fields Json} (h : new.get? property = none) :
    condition.holds context record property (.propertyChanged old new) = pure false := by
  simp only [Condition.holds, h]

end

namespace Trigger

/-! ### Agreement on the properties mentioned -/

section

variable {m : Type → Type} [Monad m] (context : Context m) (record : String)
  {old new old' new' : Fields Json}

mutual

/-- Two changes with the same new values of the properties mentioned get the same evaluation. -/
theorem fires_congr : (trigger : Trigger) →
    (∀ name ∈ trigger.mentions, new.get? name = new'.get? name) →
    trigger.fires context record (.propertyChanged old new) =
      trigger.fires context record (.propertyChanged old' new')
  | .and children, h => allFire_congr children h
  | .or children, h => anyFires_congr children h
  | .created, _ => rfl
  | .property name condition, h => by
    rw [fires, fires]
    exact condition.holds_congr context record name (h name (List.mem_singleton.mpr rfl))
  | .invalid _, _ => rfl

theorem allFire_congr : (children : List Trigger) →
    (∀ name ∈ mentionsOf children, new.get? name = new'.get? name) →
    allFire context record (.propertyChanged old new) children =
      allFire context record (.propertyChanged old' new') children
  | [], _ => rfl
  | child :: rest, h => by
    have hchild := fires_congr child fun name hn => h name (List.mem_append_left _ hn)
    have hrest := allFire_congr rest fun name hn => h name (List.mem_append_right _ hn)
    simp only [allFire, hchild, hrest]

theorem anyFires_congr : (children : List Trigger) →
    (∀ name ∈ mentionsOf children, new.get? name = new'.get? name) →
    anyFires context record (.propertyChanged old new) children =
      anyFires context record (.propertyChanged old' new') children
  | [], _ => rfl
  | child :: rest, h => by
    have hchild := fires_congr child fun name hn => h name (List.mem_append_left _ hn)
    have hrest := anyFires_congr rest fun name hn => h name (List.mem_append_right _ hn)
    simp only [anyFires, hchild, hrest]

end

end

/-! ### Groups have children -/

mutual

/-- Every group of the tree has at least one child. -/
def Grouped : Trigger → Prop
  | .and children => children ≠ [] ∧ AllGrouped children
  | .or children => children ≠ [] ∧ AllGrouped children
  | .created => True
  | .property _ _ => True
  | .invalid _ => True

/-- Every group of a list of trees has at least one child. -/
def AllGrouped : List Trigger → Prop
  | [] => True
  | child :: rest => Grouped child ∧ AllGrouped rest

end

theorem allGrouped_iff {children : List Trigger} :
    AllGrouped children ↔ ∀ child ∈ children, child.Grouped := by
  induction children with
  | nil => exact iff_of_true trivial (by simp)
  | cons child rest ih => rw [AllGrouped, List.forall_mem_cons, ih]

theorem grouped_ofJson (raw : Json) : (ofJson raw).Grouped := by
  refine ofJson_induction ?_ ?_ trivial (fun _ _ _ => trivial) (fun _ => trivial) raw
  · exact fun children hne hall => ⟨hne, allGrouped_iff.mpr hall⟩
  · exact fun children hne hall => ⟨hne, allGrouped_iff.mpr hall⟩

/-! ### No relevant change -/

section

variable {σ : Type} (context : Context (StateM σ)) (record : String) {old new : Fields Json}

mutual

/-- A trigger with children in all groups does not fire when no property it mentions changed. The
state may change, because invalid nodes are logged. -/
theorem fires_of_unmentioned : (trigger : Trigger) → trigger.Grouped →
    (∀ name ∈ trigger.mentions, new.get? name = none) → ∀ s : σ,
    (trigger.fires context record (.propertyChanged old new) s).1 = false
  | .and [], hg, _, _ => absurd rfl hg.1
  | .and (child :: rest), hg, h, s => by
    have hchild := fires_of_unmentioned child hg.2.1
      (fun name hn => h name (List.mem_append_left _ hn)) s
    rw [fires, allFire]
    show ((if _ then _ else pure false : StateM σ Bool) _).1 = false
    rw [hchild]
    rfl
  | .or children, hg, h, s => anyFires_of_unmentioned children hg.2 h s
  | .created, _, _, _ => rfl
  | .property name condition, _, h, s => by
    rw [fires, condition.holds_of_unchanged context record name
      (h name (List.mem_singleton.mpr rfl))]
    rfl
  | .invalid _, _, _, _ => rfl

theorem anyFires_of_unmentioned : (children : List Trigger) → AllGrouped children →
    (∀ name ∈ mentionsOf children, new.get? name = none) → ∀ s : σ,
    (anyFires context record (.propertyChanged old new) children s).1 = false
  | [], _, _, _ => rfl
  | child :: rest, hg, h, s => by
    have hchild := fires_of_unmentioned child hg.1
      (fun name hn => h name (List.mem_append_left _ hn)) s
    have hrest := anyFires_of_unmentioned rest hg.2
      fun name hn => h name (List.mem_append_right _ hn)
    rw [anyFires]
    show ((if _ then pure true else _ : StateM σ Bool) _).1 = false
    rw [hchild]
    exact hrest _

end

end

end Trigger

end RecordWatch
