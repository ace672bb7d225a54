import RecordWatch.Evaluation
import RecordWatch.Proofs.Simulation

/-! Evaluation in two contexts. Where lookups, the clock and the log are alike, every trigger is
evaluated alike. -/

namespace RecordWatch

section

variable {m n : Type → Type} [Monad m] [Monad n] (L : Likeness m n)

/-- Two contexts that are alike. -/
structure Context.Alike (c : Context m) (d : Context n) : Prop where
  items (record property : String) : L.rel (c.items record property) (d.items record property)
  now : L.rel c.now d.now
  log (event : Event) : L.rel (c.log event) (d.log event)

namespace Likeness

theorem comparable {lookup : String → m (Except ApiError (List Json))}
    {lookup' : String → n (Except ApiError (List Json))} (h : ∀ id, L.rel (lookup id) (lookup' id))
    (property : Property) : L.rel (property.comparable lookup) (property.comparable lookup') := by
  unfold Property.comparable
  split
  · split
    · exact L.pure _
    · next id _ =>
      refine L.bind (h id) fun answer => ?_
      cases answer with
      | ok items => exact L.pure _
      | error error => exact L.pure _
  · exact L.pure _

theorem lift {ε α : Type} (wrap : ε → PredicateError) {p : m (Except ε α)} {q : n (Except ε α)}
    (h : L.rel p q) :
    L.rel (PredicateError.lift wrap p).run (PredicateError.lift wrap q).run := by
  refine L.bind h fun result => ?_
  cases result with
  | ok value => exact L.pure _
  | error error => exact L.pure _

end Likeness

namespace Context.Alike

variable {L} {c : Context m} {d : Context n}

theorem comparison (h : Context.Alike L c d) (record : String) (property : Property)
    (comparison : Comparison) :
    L.rel (comparison.check c record property).run (comparison.check d record property).run := by
  refine L.run_bind (L.lift _ (L.comparable (h.items record) property)) fun value => ?_
  refine L.run_bind (L.run_lift h.now) fun now => ?_
  exact L.lift _ (L.pure _)

/-- A condition is checked alike. -/
theorem check (h : Context.Alike L c d) (record : String) (condition : Condition) :
    ∀ raw, L.rel (condition.check c record raw).run (condition.check d record raw).run := by
  induction condition with
  | simple kind comparison =>
    intro raw
    refine L.run_bind (L.lift _ (L.pure _)) fun property => ?_
    split
    · exact h.comparison record property comparison
    · exact L.run_throw _
  | formula expected comparison =>
    intro raw
    refine L.run_bind (L.lift _ (L.pure _)) fun property => ?_
    split
    · split
      · exact h.comparison record property comparison
      · exact L.run_throw _
    · exact L.run_throw _
  | rollupNumber comparison =>
    intro raw
    refine L.run_bind (L.lift _ (L.pure _)) fun property => ?_
    split
    · exact h.comparison record property comparison
    · exact L.run_throw _
    · exact L.run_throw _
  | rollupDate comparison =>
    intro raw
    refine L.run_bind (L.lift _ (L.pure _)) fun property => ?_
    split
    · exact h.comparison record property comparison
    · exact L.run_throw _
    · exact L.run_throw _
  | quantified quantifier inner ih =>
    intro raw
    refine L.run_bind (L.lift _ (L.pure _)) fun property => ?_
    split
    · exact L.run_bind (L.run_mapM fun element _ => ih element) fun verdicts => L.run_pure _
    · exact L.run_throw _
    · exact L.run_throw _

theorem holds (h : Context.Alike L c d) (record property : String) (condition : Condition)
    (change : ChangeSet) :
    L.rel (condition.holds c record property change)
      (condition.holds d record property change) := by
  unfold Condition.holds
  split
  · exact L.pure _
  · split
    · exact L.pure _
    · next raw _ =>
      refine L.bind (h.check record condition raw) fun result => ?_
      cases result with
      | ok verdict => exact L.pure _
      | error error => exact L.bind (h.log _) fun _ => L.pure _

mutual

/-- A trigger fires alike. -/
theorem fires (h : Context.Alike L c d) (record : String) (change : ChangeSet) :
    (trigger : Trigger) →
    L.rel (trigger.fires c record change) (trigger.fires d record change)
  | .and children => allFire h record change children
  | .or children => anyFires h record change children
  | .created => by
    cases change with
    | newPage key => exact L.pure _
    | propertyChanged old new => exact L.pure _
  | .property name condition => h.holds record name condition change
  | .invalid problem => L.bind (h.log _) fun _ => L.pure _

theorem allFire (h : Context.Alike L c d) (record : String) (change : ChangeSet) :
    (children : List Trigger) →
    L.rel (Trigger.allFire c record change children) (Trigger.allFire d record change children)
  | [] => L.pure _
  | child :: rest => by
    refine L.bind (fires h record change child) fun verdict => ?_
    cases verdict with
    | true => exact allFire h record change rest
    | false => exact L.pure _

theorem anyFires (h : Context.Alike L c d) (record : String) (change : ChangeSet) :
    (children : List Trigger) →
    L.rel (Trigger.anyFires c record change children) (Trigger.anyFires d record change children)
  | [] => L.pure _
  | child :: rest => by
    refine L.bind (fires h record change child) fun verdict => ?_
    cases verdict with
    | true => exact L.pure _
    | false => exact anyFires h record change rest

end

end Context.Alike

end

variable {σ τ : Type} {R : σ → τ → Prop}

/-- Two contexts that answer alike in related states. -/
structure Context.Related (R : σ → τ → Prop) (c : Context (StateM σ)) (d : Context (StateM τ)) :
    Prop where
  items (record property : String) :
    Relates R Eq (c.items record property) (d.items record property)
  now : Relates R Eq c.now d.now
  log (event : Event) : Relates R Eq (c.log event) (d.log event)

theorem Context.Related.alike {c : Context (StateM σ)} {d : Context (StateM τ)}
    (h : Context.Related R c d) : Context.Alike (.relates R) c d :=
  ⟨h.items, h.now, h.log⟩

end RecordWatch
