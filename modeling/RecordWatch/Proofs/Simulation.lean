/-! Computations on two kinds of state, compared step by step. Two computations are related when,
started in related states, they give related results and end in related states. An invariant is the
case of a single computation that is related to itself.

Related computations with equal results are one case of computations in two monads that are alike in
some respect. Whatever the respect is, values and sequences keep to it, so that computations put
together from like steps are alike: loops, and computations that may fail. -/

namespace RecordWatch

/-- Started in states that `R` relates, the two computations give results that `Q` relates and end
in states that `R` relates. -/
def Relates {σ τ α β : Type} (R : σ → τ → Prop) (Q : α → β → Prop) (p : StateM σ α)
    (q : StateM τ β) : Prop :=
  ∀ s t, R s t → Q (p s).1 (q t).1 ∧ R (p s).2 (q t).2

/-- What a computation does after a first step. -/
theorem bind_run {σ α β : Type} {p : StateM σ α} {f : α → StateM σ β} {s s' : σ} {a : α}
    (h : p s = (a, s')) : (p >>= f) s = f a s' :=
  congrArg (fun result : α × σ => f result.1 result.2) h

theorem lift_run {σ α β ε : Type} {p : StateM σ α} {f : α → ExceptT ε (StateM σ) β} {s s' : σ}
    {a : α} (h : p s = (a, s')) :
    ((liftM p : ExceptT ε (StateM σ) α) >>= f).run s = (f a).run s' :=
  congrArg (fun result : α × σ => (f result.1).run result.2) h

theorem ok_run {σ α β ε : Type} {p : ExceptT ε (StateM σ) α} {f : α → ExceptT ε (StateM σ) β}
    {s s' : σ} {a : α} (h : p.run s = (.ok a, s')) : (p >>= f).run s = (f a).run s' := by
  rw [ExceptT.run_bind]
  exact bind_run h

theorem error_run {σ α β ε : Type} {p : ExceptT ε (StateM σ) α} {f : α → ExceptT ε (StateM σ) β}
    {s s' : σ} {e : ε} (h : p.run s = (.error e, s')) : (p >>= f).run s = (.error e, s') := by
  rw [ExceptT.run_bind]
  exact bind_run h

namespace Relates

variable {σ τ α β γ δ ε : Type} {R : σ → τ → Prop} {Q : α → β → Prop} {P : γ → δ → Prop}

theorem pure {a : α} {b : β} (h : Q a b) :
    Relates R Q (Pure.pure a : StateM σ α) (Pure.pure b : StateM τ β) :=
  fun _ _ hst => ⟨h, hst⟩

theorem bind {p : StateM σ α} {q : StateM τ β} {f : α → StateM σ γ} {g : β → StateM τ δ}
    (h : Relates R Q p q) (hf : ∀ a b, Q a b → Relates R P (f a) (g b)) :
    Relates R P (p >>= f) (q >>= g) := by
  intro s t hst
  obtain ⟨hq, hr⟩ := h s t hst
  exact hf _ _ hq _ _ hr

/-- Equal results are used in the same way. -/
theorem bind_eq {p : StateM σ α} {q : StateM τ α} {f : α → StateM σ γ} {g : α → StateM τ δ}
    (h : Relates R Eq p q) (hf : ∀ a, Relates R P (f a) (g a)) :
    Relates R P (p >>= f) (q >>= g) :=
  h.bind fun a _ hab => hab ▸ hf a

theorem imp {Q' : α → β → Prop} {p : StateM σ α} {q : StateM τ β} (h : Relates R Q p q)
    (hq : ∀ a b, Q a b → Q' a b) : Relates R Q' p q :=
  fun s t hst => (h s t hst).imp_left (hq _ _)

theorem foldlM {f : α → ε → StateM σ α} {g : β → ε → StateM τ β} {items : List ε}
    (hf : ∀ a b, ∀ item ∈ items, Q a b → Relates R Q (f a item) (g b item)) {a : α} {b : β}
    (h : Q a b) : Relates R Q (items.foldlM f a) (items.foldlM g b) := by
  induction items generalizing a b with
  | nil => exact .pure h
  | cons item items ih =>
    rw [List.foldlM_cons, List.foldlM_cons]
    exact (hf a b item List.mem_cons_self h).bind fun a b hab =>
      ih (fun a b item hi => hf a b item (List.mem_cons_of_mem _ hi)) hab

end Relates

/-- Two outcomes: values that `Q` relates, or the same error. -/
inductive Ended {ε α β : Type} (Q : α → β → Prop) : Except ε α → Except ε β → Prop where
  | ok {a : α} {b : β} (h : Q a b) : Ended Q (.ok a) (.ok b)
  | error (e : ε) : Ended Q (.error e) (.error e)

namespace Ended

variable {ε α β : Type} {Q : α → β → Prop}

theorem refl {Q : α → α → Prop} (h : ∀ a, Q a a) (result : Except ε α) : Ended Q result result := by
  cases result with
  | ok a => exact .ok (h a)
  | error e => exact .error e

theorem eq {result result' : Except ε α} (h : Ended Eq result result') : result = result' := by
  cases h with
  | ok h => rw [h]
  | error e => rfl

theorem imp {Q' : α → β → Prop} (hq : ∀ a b, Q a b → Q' a b) {result : Except ε α}
    {result' : Except ε β} (h : Ended Q result result') : Ended Q' result result' := by
  cases h with
  | ok h => exact .ok (hq _ _ h)
  | error e => exact .error e

end Ended

/-! ### Computations that may fail -/

namespace Relates

variable {σ τ α β γ δ ε : Type} {R : σ → τ → Prop} {Q : α → β → Prop} {P : γ → δ → Prop}

theorem run_pure {a : α} {b : β} (h : Q a b) :
    Relates R (Ended Q) (Pure.pure a : ExceptT ε (StateM σ) α).run
      (Pure.pure b : ExceptT ε (StateM τ) β).run :=
  .pure (.ok h)

theorem run_throw (e : ε) :
    Relates R (Ended Q) (throw e : ExceptT ε (StateM σ) α).run
      (throw e : ExceptT ε (StateM τ) β).run :=
  .pure (.error e)

theorem run_bind {p : ExceptT ε (StateM σ) α} {q : ExceptT ε (StateM τ) β}
    {f : α → ExceptT ε (StateM σ) γ} {g : β → ExceptT ε (StateM τ) δ}
    (h : Relates R (Ended Q) p.run q.run)
    (hf : ∀ a b, Q a b → Relates R (Ended P) (f a).run (g b).run) :
    Relates R (Ended P) (p >>= f).run (q >>= g).run := by
  rw [ExceptT.run_bind, ExceptT.run_bind]
  refine h.bind fun result result' hresult => ?_
  cases hresult with
  | ok hab => exact hf _ _ hab
  | error e => exact .run_throw e

theorem run_lift {p : StateM σ α} {q : StateM τ β} (h : Relates R Q p q) :
    Relates R (Ended Q) (liftM p : ExceptT ε (StateM σ) α).run
      (liftM q : ExceptT ε (StateM τ) β).run :=
  h.bind fun _ _ hab => .run_pure hab

end Relates

/-- A relation between the computations of two monads that values and sequences keep to. -/
structure Likeness (m n : Type → Type) [Monad m] [Monad n] where
  rel {α : Type} : m α → n α → Prop
  pure {α : Type} (a : α) : rel (Pure.pure a) (Pure.pure a)
  map {α β : Type} {p : m α} {q : n α} (f : α → β) (h : rel p q) : rel (f <$> p) (f <$> q)
  bind {α β : Type} {p : m α} {q : n α} {f : α → m β} {g : α → n β} (h : rel p q)
    (hf : ∀ a, rel (f a) (g a)) : rel (p >>= f) (q >>= g)

namespace Likeness

section

variable {m n : Type → Type} [Monad m] [Monad n] (L : Likeness m n) {α β ε : Type}

theorem foldlM {f : α → β → m α} {g : α → β → n α} {items : List β}
    (hf : ∀ a, ∀ item ∈ items, L.rel (f a item) (g a item)) (a : α) :
    L.rel (items.foldlM f a) (items.foldlM g a) := by
  induction items generalizing a with
  | nil => exact L.pure a
  | cons item items ih =>
    rw [List.foldlM_cons, List.foldlM_cons]
    exact L.bind (hf a item List.mem_cons_self) fun a =>
      ih (fun a item hi => hf a item (List.mem_cons_of_mem _ hi)) a

theorem forM {f : β → m PUnit} {g : β → n PUnit} {items : List β}
    (hf : ∀ item ∈ items, L.rel (f item) (g item)) : L.rel (items.forM f) (items.forM g) := by
  induction items with
  | nil => exact L.pure _
  | cons item items ih =>
    exact L.bind (hf item List.mem_cons_self) fun _ =>
      ih fun item hi => hf item (List.mem_cons_of_mem _ hi)

theorem run_pure (a : α) :
    L.rel (Pure.pure a : ExceptT ε m α).run (Pure.pure a : ExceptT ε n α).run :=
  L.pure (Except.ok a)

theorem run_throw (e : ε) :
    L.rel (throw e : ExceptT ε m α).run (throw e : ExceptT ε n α).run :=
  L.pure (Except.error e)

theorem run_bind {p : ExceptT ε m α} {q : ExceptT ε n α} {f : α → ExceptT ε m β}
    {g : α → ExceptT ε n β} (h : L.rel p.run q.run) (hf : ∀ a, L.rel (f a).run (g a).run) :
    L.rel (p >>= f).run (q >>= g).run := by
  rw [ExceptT.run_bind, ExceptT.run_bind]
  refine L.bind h fun result => ?_
  cases result with
  | ok a => exact hf a
  | error e => exact L.pure (Except.error e)

theorem run_foldlM {f : α → β → ExceptT ε m α} {g : α → β → ExceptT ε n α} {items : List β}
    (hf : ∀ a, ∀ item ∈ items, L.rel (f a item).run (g a item).run) (a : α) :
    L.rel (items.foldlM f a).run (items.foldlM g a).run := by
  induction items generalizing a with
  | nil => exact L.run_pure a
  | cons item items ih =>
    rw [List.foldlM_cons, List.foldlM_cons]
    exact L.run_bind (hf a item List.mem_cons_self) fun a =>
      ih (fun a item hi => hf a item (List.mem_cons_of_mem _ hi)) a

theorem run_lift {p : m α} {q : n α} (h : L.rel p q) :
    L.rel (liftM p : ExceptT ε m α).run (liftM q : ExceptT ε n α).run :=
  L.map Except.ok h

theorem run_mapM {f : β → ExceptT ε m α} {g : β → ExceptT ε n α} {items : List β}
    (h : ∀ item ∈ items, L.rel (f item).run (g item).run) :
    L.rel (items.mapM f).run (items.mapM g).run := by
  suffices hloop : ∀ found : List α,
      L.rel (List.mapM.loop f items found).run (List.mapM.loop g items found).run from hloop []
  induction items with
  | nil => exact fun found => L.run_pure _
  | cons item items ih =>
    intro found
    exact L.run_bind (h item List.mem_cons_self) fun a =>
      ih (fun item hi => h item (List.mem_cons_of_mem _ hi)) (a :: found)

end

/-- Computations on related states that give equal results. -/
def relates {σ τ : Type} (R : σ → τ → Prop) : Likeness (StateM σ) (StateM τ) where
  rel := Relates R Eq
  pure _ := .pure rfl
  map _ h := h.bind_eq fun _ => .pure rfl
  bind h hf := h.bind_eq hf

end Likeness

end RecordWatch
