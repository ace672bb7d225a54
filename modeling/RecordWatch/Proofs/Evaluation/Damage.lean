import Mathlib.Data.List.Forall2
import RecordWatch.Proofs.Evaluation.Simulation
import RecordWatch.Proofs.Fields

/-! Evaluation under damage. What a damaged value or a failing lookup makes of the check of a
condition is an error or the verdict without the damage, because the quantifiers pass the errors of
elements on and no condition turns an error into a verdict. Groups are monotone, so a trigger that
does not fire does not fire after any damage. -/

namespace RecordWatch

variable {σ τ α β γ δ ε : Type}

/-! ### Failing closed -/

/-- A result that is an error where it is not the other result. -/
inductive Closes : Except ε α → Except ε α → Prop where
  | error {e : ε} {result : Except ε α} : Closes (.error e) result
  | refl {result : Except ε α} : Closes result result

/-- Wherever the two computations start, `Q` relates their results. -/
abbrev Yields (Q : α → β → Prop) (p : StateM σ α) (q : StateM τ β) : Prop :=
  Relates (fun _ _ => True) Q p q

namespace Yields

theorem of_fst {Q : α → β → Prop} {p : StateM σ α} {q : StateM τ β}
    (h : ∀ s t, Q (p s).1 (q t).1) : Yields Q p q :=
  fun s t _ => ⟨h s t, trivial⟩

theorem of_error {p : StateM σ (Except ε α)} {q : StateM τ (Except ε α)}
    (h : ∀ s, ∃ e, (p s).1 = .error e) : Yields Closes p q := by
  refine of_fst fun s t => ?_
  obtain ⟨e, he⟩ := h s
  rw [he]
  exact .error

theorem settled (result : Except ε α) :
    Yields Closes (pure result : StateM σ _) (pure result : StateM τ _) :=
  .pure .refl

theorem run_lift {p : StateM σ α} {q : StateM τ α} (h : Yields Eq p q) :
    Yields Closes (liftM p : ExceptT ε (StateM σ) α).run (liftM q : ExceptT ε (StateM τ) α).run :=
  (Relates.run_lift h).imp fun _ _ hended => hended.eq ▸ .refl

/-- A first step that fails closed makes the whole fail closed. -/
theorem run_bind {p : ExceptT ε (StateM σ) α} {q : ExceptT ε (StateM τ) α}
    {f : α → ExceptT ε (StateM σ) γ} {g : α → ExceptT ε (StateM τ) γ}
    (h : Yields Closes p.run q.run) (hf : ∀ a, Yields Closes (f a).run (g a).run) :
    Yields Closes (p >>= f).run (q >>= g).run := by
  rw [ExceptT.run_bind, ExceptT.run_bind]
  refine h.bind fun result other hc => ?_
  cases hc with
  | error => exact of_error fun s => ⟨_, rfl⟩
  | refl =>
    cases result with
    | ok a => exact hf a
    | error e => exact settled _

theorem run_mapM {f : γ → ExceptT ε (StateM σ) α} {g : γ → ExceptT ε (StateM τ) α}
    {items others : List γ}
    (h : List.Forall₂ (fun a b => Yields Closes (f a).run (g b).run) items others) :
    Yields Closes (items.mapM f).run (others.mapM g).run := by
  induction h with
  | nil => exact settled _
  | cons hfirst _ ih =>
    rw [List.mapM_cons, List.mapM_cons]
    refine run_bind hfirst fun a => ?_
    refine run_bind ih fun rest => ?_
    exact settled _

theorem lift (wrap : ε → PredicateError) {p : StateM σ (Except ε α)} {q : StateM τ (Except ε α)}
    (h : Yields Closes p q) :
    Yields Closes (PredicateError.lift wrap p).run (PredicateError.lift wrap q).run := by
  refine h.bind fun result other hc => ?_
  cases hc with
  | error => exact of_error fun s => ⟨_, rfl⟩
  | refl => cases result <;> exact settled _

end Yields

/-! ### Failing lookups -/

/-- What lookups answer, by record and property. -/
abbrev Lookups := String → String → Except ApiError (List Json)

/-- A context whose lookups answer as a function of what they are asked, at one moment. Asking and
logging may leave any trace in its state. -/
structure Context.Answers (c : Context (StateM σ)) (answers : Lookups) (moment : Moment) :
    Prop where
  items (record property : String) (s : σ) : (c.items record property s).1 = answers record property
  now (s : σ) : (c.now s).1 = moment

/-- Two contexts at one moment; where the first answers differently, it fails. -/
structure Context.Closes (c : Context (StateM σ)) (d : Context (StateM τ)) : Prop where
  items (record property : String) :
    Yields RecordWatch.Closes (c.items record property) (d.items record property)
  now : Yields Eq c.now d.now

namespace Context.Closes

variable {c : Context (StateM σ)} {d : Context (StateM τ)}

theorem comparable (h : Context.Closes c d) (record : String) (property : Property) :
    Yields RecordWatch.Closes (property.comparable (c.items record))
      (property.comparable (d.items record)) := by
  unfold Property.comparable
  split
  · split
    · exact Yields.settled _
    · next id _ =>
      refine (h.items record id).bind fun answer other hc => ?_
      cases hc with
      | error => exact Yields.of_error fun s => ⟨_, rfl⟩
      | refl => cases answer <;> exact Yields.settled _
  · exact Yields.settled _

theorem comparison (h : Context.Closes c d) (record : String) (property : Property)
    (comparison : Comparison) :
    Yields RecordWatch.Closes (comparison.check c record property).run
      (comparison.check d record property).run := by
  refine Yields.run_bind (Yields.lift _ (h.comparable record property)) fun value => ?_
  refine Yields.run_bind (Yields.run_lift h.now) fun now => ?_
  exact Yields.lift _ (Yields.settled _)

/-- A condition on a value fails closed where lookups fail. -/
theorem check (h : Context.Closes c d) (record : String) (condition : Condition) :
    ∀ raw, Yields RecordWatch.Closes (condition.check c record raw).run
      (condition.check d record raw).run := by
  induction condition with
  | simple kind comparison =>
    intro raw
    refine Yields.run_bind (Yields.lift _ (Yields.settled _)) fun property => ?_
    split
    · exact h.comparison record property comparison
    · exact Yields.settled _
  | formula expected comparison =>
    intro raw
    refine Yields.run_bind (Yields.lift _ (Yields.settled _)) fun property => ?_
    split
    · split
      · exact h.comparison record property comparison
      · exact Yields.settled _
    · exact Yields.settled _
  | rollupNumber comparison =>
    intro raw
    refine Yields.run_bind (Yields.lift _ (Yields.settled _)) fun property => ?_
    split
    · exact h.comparison record property comparison
    · exact Yields.settled _
    · exact Yields.settled _
  | rollupDate comparison =>
    intro raw
    refine Yields.run_bind (Yields.lift _ (Yields.settled _)) fun property => ?_
    split
    · exact h.comparison record property comparison
    · exact Yields.settled _
    · exact Yields.settled _
  | quantified quantifier inner ih =>
    intro raw
    refine Yields.run_bind (Yields.lift _ (Yields.settled _)) fun property => ?_
    split
    · refine Yields.run_bind (Yields.run_mapM ?_) fun verdicts => Yields.settled _
      exact List.forall₂_same.mpr fun element _ => ih element
    · exact Yields.settled _
    · exact Yields.settled _

end Context.Closes

/-! ### Damaged values -/

/-- The fields of a rollup whose result has these fields and these elements. -/
structure IsRollup (fields result : Fields Json) (elements : List Json) : Prop where
  type : fields.get? "type" = some (.string "rollup")
  rollup : fields.get? "rollup" = some (.object result)
  resultType : result.get? "type" = some (.string "array")
  array : result.get? "array" = some (.array elements)

theorem IsRollup.decode {fields result : Fields Json} {elements : List Json}
    (h : IsRollup fields result elements) :
    Property.decode (.object fields) =
      .ok ⟨(fields.get? "id").bind Json.string?, .rollup (.array elements)⟩ := by
  have hrollup : Payload.rollupOf (.object result) = .ok (.array elements) := by
    simp only [Payload.rollupOf, Payload.split, h.resultType, h.array, Option.bind_some,
      Json.string?]
    rfl
  have hkind : Kind.ofName? "rollup" = some .rollup := by decide
  have hpayload : Payload.decode (.object fields) = .ok (.rollup (.array elements)) := by
    simp only [Payload.decode, Payload.split, h.type, h.rollup, Option.bind_some, Json.string?,
      bind, Except.bind, hkind, hrollup]
    rfl
  rw [Property.decode, hpayload]
  rfl

theorem decode_run {raw : Json} {property : Property} (h : Property.decode raw = .ok property)
    (s : σ) :
    (PredicateError.lift .decode (pure (Property.decode raw)) :
      ExceptT PredicateError (StateM σ) Property).run s = (.ok property, s) := by
  rw [h]
  rfl

section

variable (c : Context (StateM σ)) (record : String) {raw : Json} {id : Option String}
  {elements : List Json} (h : Property.decode raw = .ok ⟨id, .rollup (.array elements)⟩)
include h

/-- A quantified condition on an array combines the verdicts on its elements. -/
theorem check_quantified (quantifier : Quantifier) (inner : Condition) :
    ((Condition.quantified quantifier inner).check c record raw).run =
      (elements.mapM (inner.check c record) >>= fun verdicts =>
        return quantifier.combine verdicts : ExceptT PredicateError (StateM σ) Bool).run := by
  funext s
  exact ok_run (decode_run h s)

end

namespace Context.Closes

variable {c : Context (StateM σ)} {d : Context (StateM τ)}

end Context.Closes

/-! ### Verdicts that only fall -/

/-- A verdict that holds only if the other does. -/
def Implies (verdict other : Bool) : Prop := verdict = true → other = true

theorem Yields.of_false {p : StateM σ Bool} {q : StateM τ Bool} (h : ∀ s, (p s).1 = false) :
    Yields Implies p q := by
  refine of_fst fun s t hp => ?_
  rw [h s] at hp
  cases hp

theorem Yields.same (verdict : Bool) :
    Yields Implies (pure verdict : StateM σ Bool) (pure verdict : StateM τ Bool) :=
  .pure id

/-- A condition holds only of values of which it held before, if its check fails closed. -/
theorem holds_of_closes {c : Context (StateM σ)} {d : Context (StateM τ)} {record name : String}
    {old new old' new' : Fields Json} {condition : Condition}
    (h : Option.Rel (fun raw value => Yields Closes (condition.check c record raw).run
      (condition.check d record value).run) (new.get? name) (new'.get? name)) :
    Yields Implies (condition.holds c record name (.propertyChanged old new))
      (condition.holds d record name (.propertyChanged old' new')) := by
  unfold Condition.holds
  dsimp only
  generalize new.get? name = raw at h ⊢
  generalize new'.get? name = value at h ⊢
  cases h with
  | none => exact Yields.same false
  | some hchecked =>
    refine hchecked.bind fun result other hc => ?_
    cases hc with
    | error => exact Yields.of_false fun s => rfl
    | refl =>
      cases result with
      | ok verdict => exact Yields.same verdict
      | error error => exact Yields.of_false fun s => rfl

section

variable {c : Context (StateM σ)} {d : Context (StateM τ)} {record : String}
  {damaged change : ChangeSet}

theorem allFire_of_each {triggers others : List Trigger}
    (h : List.Forall₂ (fun trigger other : Trigger => Yields Implies
      (trigger.fires c record damaged) (other.fires d record change)) triggers others) :
    Yields Implies (Trigger.allFire c record damaged triggers)
      (Trigger.allFire d record change others) := by
  induction h with
  | nil => exact Yields.same true
  | cons hfirst _ ih =>
    unfold Trigger.allFire
    refine hfirst.bind fun verdict other himp => ?_
    cases verdict with
    | true =>
      rw [himp rfl]
      exact ih
    | false => exact Yields.of_false fun s => rfl

theorem anyFires_of_each {triggers others : List Trigger}
    (h : List.Forall₂ (fun trigger other : Trigger => Yields Implies
      (trigger.fires c record damaged) (other.fires d record change)) triggers others) :
    Yields Implies (Trigger.anyFires c record damaged triggers)
      (Trigger.anyFires d record change others) := by
  induction h with
  | nil => exact Yields.same false
  | cons hfirst _ ih =>
    unfold Trigger.anyFires
    refine hfirst.bind fun verdict other himp => ?_
    cases verdict with
    | true =>
      rw [himp rfl]
      exact Yields.same true
    | false =>
      cases other with
      | true => exact Yields.of_fst fun s t _ => rfl
      | false => exact ih

variable (c d record damaged change) in
/-- The leaves of triggers hold of a damaged change only if they hold of the change. -/
structure LeavesImply : Prop where
  property (name : String) (condition : Condition) :
    Yields Implies (condition.holds c record name damaged) (condition.holds d record name change)
  created : Yields Implies (Trigger.fires c record damaged .created)
    (Trigger.fires d record change .created)

mutual

/-- A trigger fires only if it did before, if that is so of its leaves. -/
theorem fires_of_leaves (h : LeavesImply c d record damaged change) : (trigger : Trigger) →
    Yields Implies (trigger.fires c record damaged) (trigger.fires d record change)
  | .and children => allFire_of_each (each_of_leaves h children)
  | .or children => anyFires_of_each (each_of_leaves h children)
  | .created => h.created
  | .property name condition => h.property name condition
  | .invalid _ => Yields.of_false fun _ => rfl

theorem each_of_leaves (h : LeavesImply c d record damaged change) : (children : List Trigger) →
    List.Forall₂ (fun trigger other : Trigger => Yields Implies
      (trigger.fires c record damaged) (other.fires d record change)) children children
  | [] => .nil
  | child :: rest => .cons (fires_of_leaves h child) (each_of_leaves h rest)

end

end

/-! ### Damage -/

/-- What the evaluation of a trigger works on. -/
structure EvaluationInput where
  trigger : Trigger
  change : ChangeSet
  answers : Lookups

namespace Context.Closes

variable {c : Context (StateM σ)} {d : Context (StateM τ)}

/-- A condition on new values holds only if it did before lookups failed, and whatever the old
values were. -/
theorem holds_of_new (h : Context.Closes c d) (record name : String) (condition : Condition)
    {old others new : Fields Json} :
    Yields Implies (condition.holds c record name (.propertyChanged others new))
      (condition.holds d record name (.propertyChanged old new)) := by
  refine holds_of_closes ?_
  cases new.get? name with
  | none => exact .none
  | some raw => exact .some (h.check record condition raw)

theorem holds (h : Context.Closes c d) (record name : String) (condition : Condition)
    (change : ChangeSet) :
    Yields Implies (condition.holds c record name change)
      (condition.holds d record name change) := by
  cases change with
  | newPage key => exact Yields.of_false fun s => rfl
  | propertyChanged old new => exact h.holds_of_new record name condition

theorem fires (h : Context.Closes c d) (record : String) (change : ChangeSet) (trigger : Trigger) :
    Yields Implies (trigger.fires c record change) (trigger.fires d record change) := by
  refine fires_of_leaves ⟨fun name condition => h.holds record name condition change, ?_⟩ trigger
  cases change with
  | newPage key => exact Yields.same true
  | propertyChanged old new => exact Yields.same false

end Context.Closes

/-- A context that answers at one moment and keeps no trace. -/
def Context.fixed (answers : Lookups) (moment : Moment) : Context (StateM Unit) where
  items record property := return answers record property
  now := return moment
  log _ := return ()

/-- The raw value of a checkbox. -/
def rawCheckbox (payload : Json) : Json :=
  .object [("checkbox", payload), ("type", .string "checkbox")]

/-- The result of a raw rollup. -/
def rawResult (elements : List Json) : Fields Json :=
  [("array", .array elements), ("type", .string "array")]

/-- The fields of a raw rollup. -/
def rawRollup (elements : List Json) : Fields Json :=
  [("rollup", .object (rawResult elements)), ("type", .string "rollup")]

theorem isRollup_rawRollup (elements : List Json) :
    IsRollup (rawRollup elements) (rawResult elements) elements := by
  constructor <;> rfl

/-- A rollup of a rollup of one box. -/
def rawJobs (checked : Json) : Json :=
  .object (rawRollup [.object (rawRollup [rawCheckbox checked])])

/-- A change of such a rollup, and a trigger that fires if no inner rollup has a checked box. -/
def jobs (checked : Json) : EvaluationInput where
  trigger := .property "Jobs" (.quantified .no (.quantified .any
    (.simple .checkbox ⟨.equals, .bool true⟩)))
  change := .propertyChanged [] [("Jobs", rawJobs checked)]
  answers _ _ := .ok []

end RecordWatch
