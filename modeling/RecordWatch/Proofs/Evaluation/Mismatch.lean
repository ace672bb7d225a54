import RecordWatch.Proofs.Comparison.Dates
import RecordWatch.Proofs.Evaluation.Damage

/-! Comparisons that fit no value. Whether a set value takes an operator and its operand depends on
the shape of the value alone, so a comparison that rejects the set values of a condition at one
moment rejects them at every moment. An unset value is decided before the operand is looked at:
three operators hold of it, whether or not they fit the condition. -/

namespace RecordWatch

/-! ### What fits a shape -/

/-- The shape of a set value. -/
inductive Shape where
  | bool
  | number
  | text
  | list
  | date
deriving DecidableEq

/-- The shape of a value; an unset value has none, and an array is not compared as a whole. -/
def Comparable.shape? : Comparable → Option Shape
  | .empty => none
  | .bool _ => some .bool
  | .number _ => some .number
  | .text _ => some .text
  | .list _ => some .list
  | .date _ => some .date
  | .array _ => none

/-- Whether there is a value to compare; a date has to be readable. -/
def Comparable.IsSet (zone : Zone) : Comparable → Prop
  | .empty => False
  | .array _ => False
  | .date d => (Instant.ofText? d zone).isSome
  | _ => True

/-- What an operator asks of its operand. -/
inductive Demand where
  | nothing
  | bool
  | number
  | text
  | texts

/-- Whether an operand is what an operator asks for. -/
def Demand.admits : Demand → Json → Bool
  | .nothing, _ => true
  | .bool, operand => operand.bool?.isSome
  | .number, operand => operand.double?.isSome
  | .text, operand => operand.string?.isSome
  | .texts, operand => (operand.items?.bind Json.texts?).isSome

/-- What an operator asks of its operand beside values of a shape, if it applies to them. -/
def Shape.demand? : Shape → Operator → Option Demand
  | .bool, .equals | .bool, .doesNotEqual => some .bool
  | .bool, _ => none
  | .number, .isEmpty | .number, .isNotEmpty => some .nothing
  | .number, .equals | .number, .doesNotEqual | .number, .lessThan | .number, .greaterThan
  | .number, .lessThanOrEqualTo | .number, .greaterThanOrEqualTo => some .number
  | .number, _ => none
  | .text, .isEmpty | .text, .isNotEmpty => some .nothing
  | .text, .equals | .text, .doesNotEqual | .text, .contains | .text, .doesNotContain
  | .text, .startsWith | .text, .endsWith => some .text
  | .text, _ => none
  | .list, .isEmpty | .list, .isNotEmpty => some .nothing
  | .list, .contains | .list, .doesNotContain => some .text
  | .list, .equals | .list, .doesNotEqual => some .texts
  | .list, _ => none
  | .date, .isEmpty | .date, .isNotEmpty | .date, .pastWeek | .date, .pastMonth
  | .date, .pastYear | .date, .nextWeek | .date, .nextMonth | .date, .nextYear
  | .date, .thisWeek => some .nothing
  | .date, .equals | .date, .doesNotEqual | .date, .before | .date, .after
  | .date, .onOrBefore | .date, .onOrAfter => some .text
  | .date, _ => none

/-- Whether the operator of a comparison applies to values of a shape and has the operand that it
asks for. -/
def Comparison.fits (c : Comparison) (shape : Shape) : Bool :=
  match shape.demand? c.operator with
  | some demand => demand.admits c.operand
  | none => false

/-! ### What is rejected -/

/-- An error about the operator or the operand. -/
def CompareError.IsMismatch : CompareError → Prop
  | .unsupported _ _ => True
  | .operand _ _ _ => True
  | .date _ => False
  | .arrayNeedsQuantifier => False

/-- A verdict that is missing because of the operator or the operand. -/
def Mismatched {α : Type} (verdict : Except CompareError α) : Prop :=
  ∃ error, verdict = .error error ∧ error.IsMismatch

/-- A comparison that does not take a value. -/
def Comparison.Rejects (c : Comparison) (value : Comparable) (now : Moment) : Prop :=
  Mismatched (c.holds value now)

section

variable {α β : Type}

@[simp] theorem not_mismatched_ok (verdict : α) :
    ¬Mismatched (.ok verdict : Except CompareError α) := by
  rintro ⟨error, h, -⟩
  cases h

@[simp] theorem mismatched_error (error : CompareError) :
    Mismatched (.error error : Except CompareError α) ↔ error.IsMismatch := by
  refine ⟨?_, fun h => ⟨error, rfl, h⟩⟩
  rintro ⟨other, h, hm⟩
  cases h
  exact hm

@[simp] theorem not_mismatched_pure (verdict : α) :
    ¬Mismatched (pure verdict : Except CompareError α) :=
  not_mismatched_ok verdict

@[simp] theorem mismatched_unsupported (operator : Operator) (shape : String) :
    Mismatched (throw (.unsupported operator shape) : Except CompareError α) :=
  ⟨_, rfl, trivial⟩

/-- What is done with a value afterwards does not matter if it rejects nothing. -/
theorem mismatched_bind {read : Except CompareError α} {next : α → Except CompareError β}
    (h : ∀ a, ¬Mismatched (next a)) : Mismatched (read >>= next) ↔ Mismatched read := by
  cases read with
  | ok a => exact iff_of_false (h a) (not_mismatched_ok a)
  | error error => exact (mismatched_error error).trans (mismatched_error error).symm

@[simp] theorem mismatched_map (verdict : α → β) (read : Except CompareError α) :
    Mismatched (verdict <$> read) ↔ Mismatched read := by
  rw [← bind_pure_comp]
  exact mismatched_bind fun a => not_mismatched_pure _

/-- An operand is rejected if it does not have the form that is asked for. -/
@[simp] theorem mismatched_operandAs (c : Comparison) (expected : String)
    (read : Json → Option α) :
    Mismatched (c.operandAs expected read) ↔ (read c.operand).isSome = false := by
  rw [Comparison.operandAs]
  cases read c.operand with
  | some operand => exact iff_of_false (not_mismatched_ok operand) (by simp)
  | none => exact iff_of_true ⟨_, rfl, trivial⟩ rfl

@[simp] theorem mismatched_stringOperand (c : Comparison) :
    Mismatched c.stringOperand ↔ c.operand.string?.isSome = false :=
  mismatched_operandAs c "string" Json.string?

@[simp] theorem mismatched_listOperand (c : Comparison) :
    Mismatched c.listOperand ↔ (c.operand.items?.bind Json.texts?).isSome = false :=
  mismatched_operandAs c _ _

/-- A date that cannot be read is no mismatch. -/
@[simp] theorem not_mismatched_dateIn (zone : Zone) (input : String) :
    ¬Mismatched (Comparison.dateIn zone input) := by
  rw [Comparison.dateIn]
  split
  · exact not_mismatched_ok _
  · exact (mismatched_error _).not.mpr id

/-- Beside a date an operand is rejected if it is no text, whatever date it stands for. -/
@[simp] theorem mismatched_reference (c : Comparison) (zone : Zone) (verdict : Instant → α) :
    Mismatched (c.stringOperand >>= fun text => verdict <$> Comparison.dateIn zone text) ↔
      c.operand.string?.isSome = false :=
  (mismatched_bind fun text => by simp).trans (mismatched_stringOperand c)

end

namespace Comparison

variable (c : Comparison)

theorem rejects_bool (b : Bool) (now : Moment) :
    c.Rejects (.bool b) now ↔ c.fits .bool = false := by
  obtain ⟨operator, operand⟩ := c
  cases operator <;> simp [Rejects, holds, onBool, fits, Shape.demand?, Demand.admits]

theorem rejects_number (n : Double) (now : Moment) :
    c.Rejects (.number n) now ↔ c.fits .number = false := by
  obtain ⟨operator, operand⟩ := c
  cases operator <;> simp [Rejects, holds, onNumber, fits, Shape.demand?, Demand.admits]

theorem rejects_text (s : String) (now : Moment) :
    c.Rejects (.text s) now ↔ c.fits .text = false := by
  obtain ⟨operator, operand⟩ := c
  cases operator <;> simp [Rejects, holds, onText, fits, Shape.demand?, Demand.admits]

theorem rejects_list (items : List String) (now : Moment) :
    c.Rejects (.list items) now ↔ c.fits .list = false := by
  obtain ⟨operator, operand⟩ := c
  cases operator <;> simp [Rejects, holds, onList, fits, Shape.demand?, Demand.admits]

/-- A date that can be read is rejected as values of the other shapes are. -/
theorem rejects_date {d : String} {now : Moment} (h : (Instant.ofText? d now.zone).isSome) :
    c.Rejects (.date d) now ↔ c.fits .date = false := by
  obtain ⟨t, ht⟩ := Option.isSome_iff_exists.mp h
  have hread := dateIn_of_some ht
  obtain ⟨operator, operand⟩ := c
  cases operator <;> simp [Rejects, holds, onDate, hread, fits, Shape.demand?, Demand.admits]

/-- Whether a comparison rejects a set value depends on the shape of the value alone. -/
theorem rejects_iff {value : Comparable} {shape : Shape} (hs : value.shape? = some shape)
    {now : Moment} (hv : value.IsSet now.zone) : c.Rejects value now ↔ c.fits shape = false := by
  cases value with
  | empty => cases hs
  | bool b =>
    cases hs
    exact c.rejects_bool b now
  | number n =>
    cases hs
    exact c.rejects_number n now
  | text s =>
    cases hs
    exact c.rejects_text s now
  | list items =>
    cases hs
    exact c.rejects_list items now
  | date d =>
    cases hs
    exact c.rejects_date hv
  | array elements => cases hs

/-- Of a date that cannot be read it is only known that it is not empty. -/
theorem holds_unreadable {d : String} {now : Moment}
    (hd : ¬(Comparable.date d).IsSet now.zone) (he : c.operator ≠ .isEmpty)
    (hn : c.operator ≠ .isNotEmpty) : c.holds (.date d) now = .error (.date d) := by
  have hread : dateIn now.zone d = .error (.date d) := by
    rw [dateIn, Option.not_isSome_iff_eq_none.mp hd]
  rw [holds]
  split
  · next h => exact absurd h he
  · next h => exact absurd h hn
  · rw [onDate, hread]
    rfl

/-- A comparison has no verdict on values of a shape that it does not fit. -/
theorem holds_of_not_fits {value : Comparable} {shape : Shape} (hs : value.shape? = some shape)
    (hf : c.fits shape = false) (now : Moment) : ∃ error, c.holds value now = .error error := by
  by_cases hv : value.IsSet now.zone
  · obtain ⟨error, he, -⟩ := (c.rejects_iff hs hv).mpr hf
    exact ⟨error, he⟩
  · cases value with
    | date d =>
      cases hs
      refine ⟨.date d, c.holds_unreadable hv (fun he => ?_) fun hn => ?_⟩
      · rw [fits, he] at hf
        cases hf
      · rw [fits, hn] at hf
        cases hf
    | empty => cases hs
    | array elements => cases hs
    | _ => exact absurd trivial hv

end Comparison

/-- The operators that hold of an unset value. -/
def Operator.holdsOfUnset : Operator → Bool
  | .isEmpty | .doesNotEqual | .doesNotContain => true
  | _ => false

/-- An unset value is decided by the operator alone. -/
theorem Comparison.holds_empty (c : Comparison) (now : Moment) :
    c.holds .empty now = .ok c.operator.holdsOfUnset := by
  rw [Comparison.holds, Operator.holdsOfUnset.eq_def]
  cases c.operator <;> rfl

/-! ### A date that can be read -/

/-- Whether a written date says which instant it is, whatever zone it is read in. -/
def WrittenDate.isAbsolute (d : WrittenDate) : Bool :=
  match d.offset with
  | .utc => (Instant.ofNanoseconds? d.wall).isSome
  | _ => false

theorem WrittenDate.isSome_instant?_of_isAbsolute {d : WrittenDate} (h : d.isAbsolute)
    (zone : Zone) : (d.instant? zone).isSome := by
  unfold isAbsolute at h
  split at h
  next hutc =>
    rw [instant?, hutc]
    exact h
  next => cases h

/-- The start of 1970. -/
def epoch : String := "1970-01-01T00:00Z"

/-- It can be read in every zone. -/
theorem ofText?_epoch (zone : Zone) : (Instant.ofText? epoch zone).isSome := by
  have habsolute : (WrittenDate.ofText? epoch).any WrittenDate.isAbsolute := by decide +kernel
  obtain ⟨written, hwritten, h⟩ := (Option.any_eq_true _ _).mp habsolute
  rw [Instant.ofText?, hwritten]
  exact written.isSome_instant?_of_isAbsolute h zone

/-! ### Conditions whose comparison fits no value -/

namespace Condition

/-- The comparison of a condition that does not quantify. -/
def comparison? : Condition → Option Comparison
  | .simple _ c => some c
  | .formula _ c => some c
  | .rollupNumber c => some c
  | .rollupDate c => some c
  | .quantified _ _ => none

/-- The payloads that a condition is about: those of a kind, those of formulas with a result type,
or those of number or of date rollups. -/
def Covers : Condition → Payload → Prop
  | .simple kind _, payload => payload.kind = kind
  | .formula result _, .formula value => value.type = result
  | .rollupNumber _, .rollup (.number _) => True
  | .rollupDate _, .rollup (.date _) => True
  | _, _ => False

end Condition

/-- A comparison that rejects every set value which a condition is about. -/
def Condition.IllTyped (condition : Condition) (c : Comparison) (now : Moment) : Prop :=
  ∀ payload, condition.Covers payload → (Comparable.ofPayload payload).IsSet now.zone →
    c.Rejects (Comparable.ofPayload payload) now

/-- Three kinds of payload are compared as dates. -/
theorem Comparable.eq_of_ofPayload_date {payload : Payload} {d : String}
    (h : ofPayload payload = .date d) :
    (∃ value, payload = .date value) ∨ (∃ value, payload = .formula (.date value)) ∨
      ∃ value, payload = .rollup (.date value) := by
  cases payload with
  | date value => exact .inl ⟨value, rfl⟩
  | formula result =>
    cases result with
    | date value => exact .inr (.inl ⟨value, rfl⟩)
    | string value => cases value <;> cases h
    | number value => cases value <;> cases h
    | boolean value => cases value <;> cases h
  | rollup result =>
    cases result with
    | date value => exact .inr (.inr ⟨value, rfl⟩)
    | number value => cases value <;> cases h
    | array elements => cases h
  | number value => cases value <;> cases h
  | select option => cases option <;> cases h
  | status option => cases option <;> cases h
  | _ => cases h

/-- Where a condition is about dates, it is about dates that can be read. -/
theorem Condition.Covers.epoch {condition : Condition} {payload : Payload} {d : String}
    (h : condition.Covers payload) (hd : Comparable.ofPayload payload = .date d) :
    ∃ other, condition.Covers other ∧ Comparable.ofPayload other = .date epoch := by
  rcases Comparable.eq_of_ofPayload_date hd with ⟨value, rfl⟩ | ⟨value, rfl⟩ | ⟨value, rfl⟩
  · exact ⟨.date (some ⟨some RecordWatch.epoch, none⟩), by cases condition <;> exact h, rfl⟩
  · exact ⟨.formula (.date (some ⟨some RecordWatch.epoch, none⟩)), by
      cases condition <;> exact h, rfl⟩
  · exact ⟨.rollup (.date (some ⟨some RecordWatch.epoch, none⟩)), by
      cases condition <;> exact h, rfl⟩

/-- A condition that is about values of a shape is about set ones. -/
theorem Condition.Covers.exists_set {condition : Condition} {payload : Payload}
    (h : condition.Covers payload) {shape : Shape}
    (hs : (Comparable.ofPayload payload).shape? = some shape) (zone : Zone) :
    ∃ other, condition.Covers other ∧ (Comparable.ofPayload other).IsSet zone ∧
      (Comparable.ofPayload other).shape? = some shape := by
  cases hv : Comparable.ofPayload payload with
  | date d =>
    obtain ⟨other, hother, hepoch⟩ := h.epoch hv
    rw [hv] at hs
    refine ⟨other, hother, ?_, ?_⟩
    · rw [hepoch]
      exact ofText?_epoch zone
    · rw [hepoch]
      exact hs
  | empty =>
    rw [hv] at hs
    cases hs
  | array elements =>
    rw [hv] at hs
    cases hs
  | _ => exact ⟨payload, h, by rw [hv]; trivial, hs⟩

/-- A comparison that is ill-typed at one moment fits no shape that the condition is about. -/
theorem Condition.IllTyped.not_fits {condition : Condition} {c : Comparison} {now : Moment}
    (h : condition.IllTyped c now) {payload : Payload} (hk : condition.Covers payload)
    {shape : Shape} (hs : (Comparable.ofPayload payload).shape? = some shape) :
    c.fits shape = false := by
  obtain ⟨other, hother, hset, hshape⟩ := hk.exists_set hs now.zone
  exact (c.rejects_iff hshape hset).mp (h other hother hset)

/-- An ill-typed comparison is undecided on the values that the condition is about, except on the
unset one. -/
theorem Condition.IllTyped.undecided {condition : Condition} {c : Comparison} {now : Moment}
    (h : condition.IllTyped c now) {payload : Payload} (hk : condition.Covers payload)
    (hu : Comparable.ofPayload payload ≠ .empty) (later : Moment) :
    ∃ error, c.holds (Comparable.ofPayload payload) later = .error error := by
  cases hs : (Comparable.ofPayload payload).shape? with
  | some shape => exact c.holds_of_not_fits hs (h.not_fits hk hs) later
  | none =>
    cases hv : Comparable.ofPayload payload with
    | empty => exact absurd hv hu
    | array elements => exact ⟨.arrayNeedsQuantifier, rfl⟩
    | _ =>
      rw [hv] at hs
      cases hs

/-! ### Verdicts on raw values -/

section

variable {σ : Type} (context : Context (StateM σ)) (record : String)

/-- A condition is checked by its comparison on the values that it is about. -/
theorem check_of_covers {condition : Condition} {c : Comparison}
    (hc : condition.comparison? = some c) {raw : Json} {property : Property}
    (hd : Property.decode raw = .ok property) (hk : condition.Covers property.payload) (s : σ) :
    (condition.check context record raw).run s = (c.check context record property).run s := by
  have hdecode := decode_run (σ := σ) hd s
  obtain ⟨id, payload⟩ := property
  cases condition with
  | simple kind comparison =>
    cases hc
    have hkind : payload.kind = kind := hk
    refine (ok_run hdecode).trans ?_
    dsimp only
    rw [if_pos hkind]
  | formula expected comparison =>
    cases hc
    cases payload with
    | formula result =>
      have htype : result.type = expected := hk
      refine (ok_run hdecode).trans ?_
      dsimp only
      rw [if_pos htype]
    | _ => cases hk
  | rollupNumber comparison =>
    cases hc
    cases payload with
    | rollup result =>
      cases result with
      | number value => exact ok_run hdecode
      | _ => cases hk
    | _ => cases hk
  | rollupDate comparison =>
    cases hc
    cases payload with
    | rollup result =>
      cases result with
      | date value => exact ok_run hdecode
      | _ => cases hk
    | _ => cases hk
  | quantified quantifier inner => cases hc

/-- A relation that is completed is a list. -/
theorem comparable_relation (lookup : String → StateM σ (Except ApiError (List Json)))
    {id : Option String} {ids : List String} {s : σ} {value : Comparable}
    (h : (Property.comparable lookup ⟨id, .relation ids true⟩ s).1 = .ok value) :
    ∃ items, value = .list items := by
  cases id with
  | none => cases h
  | some id =>
    have hrun : Property.comparable lookup ⟨some id, .relation ids true⟩ s = _ :=
      bind_run (p := lookup id) rfl
    rw [hrun] at h
    cases hl : (lookup id s).1 with
    | error error =>
      rw [hl] at h
      cases h
    | ok items =>
      rw [hl] at h
      have hlist : (Comparable.complete ids items).map Comparable.list = .ok value := h
      cases hc : Comparable.complete ids items with
      | error error =>
        rw [hc] at hlist
        cases hlist
      | ok all =>
        rw [hc] at hlist
        cases hlist
        exact ⟨all, rfl⟩

/-- A value that is completed keeps its shape. -/
theorem comparable_shape (lookup : String → StateM σ (Except ApiError (List Json)))
    (property : Property) {s : σ} {value : Comparable}
    (h : (property.comparable lookup s).1 = .ok value) :
    value = Comparable.ofPayload property.payload ∨
      value.shape? = some .list ∧
        (Comparable.ofPayload property.payload).shape? = some .list := by
  obtain ⟨id, payload⟩ := property
  cases payload with
  | relation ids more =>
    cases more with
    | true =>
      obtain ⟨items, rfl⟩ := comparable_relation lookup h
      exact .inr ⟨rfl, rfl⟩
    | false =>
      cases h
      exact .inl rfl
  | _ =>
    cases h
    exact .inl rfl

/-- An unset value is there at once. -/
theorem comparable_of_empty (lookup : String → StateM σ (Except ApiError (List Json)))
    {property : Property} (h : Comparable.ofPayload property.payload = .empty) (s : σ) :
    property.comparable lookup s = (.ok .empty, s) := by
  obtain ⟨id, payload⟩ := property
  have hplain : Property.comparable lookup ⟨id, payload⟩ s =
      (.ok (Comparable.ofPayload payload), s) := by
    cases payload with
    | relation ids more => cases h
    | _ => rfl
  rw [hplain, h]

/-- The verdict of a comparison once the value is complete. -/
theorem check_of_comparable (c : Comparison) {property : Property} {s s' : σ} {value : Comparable}
    (h : property.comparable (context.items record) s = (.ok value, s')) :
    ((c.check context record property).run s).1 =
      match c.holds value (context.now s').1 with
      | .ok verdict => .ok verdict
      | .error error => .error (.compare error) := by
  have hvalue : (PredicateError.lift .completion (property.comparable (context.items record)) :
      ExceptT PredicateError (StateM σ) Comparable).run s = (.ok value, s') := bind_run h
  have hnow : context.now s' = ((context.now s').1, (context.now s').2) := rfl
  rw [Comparison.check, ok_run hvalue, lift_run hnow]
  cases c.holds value (context.now s').1 <;> rfl

/-- A comparison that is not decided on any value it may be given is not decided at all. -/
theorem check_undecided (c : Comparison) (property : Property)
    (h : ∀ s value, (property.comparable (context.items record) s).1 = .ok value →
      ∀ now, ∃ error, c.holds value now = .error error) (s : σ) :
    ∃ error, ((c.check context record property).run s).1 = .error error := by
  cases hv : property.comparable (context.items record) s with
  | mk result s' =>
    cases result with
    | ok value =>
      obtain ⟨error, he⟩ := h s value (congrArg Prod.fst hv) (context.now s').1
      exact ⟨.compare error, by rw [check_of_comparable context record c hv, he]⟩
    | error error =>
      have hfailed : (PredicateError.lift .completion
          (property.comparable (context.items record)) :
            ExceptT PredicateError (StateM σ) Comparable).run s =
              (.error (.completion error), s') := bind_run hv
      exact ⟨.completion error, congrArg Prod.fst (error_run hfailed)⟩

/-- A property predicate holds of a changed value of which its condition does. -/
theorem fires_property {name : String} {condition : Condition} {old new : Fields Json} {raw : Json}
    (hv : new.get? name = some raw) (s : σ) :
    ((Trigger.property name condition).fires context record (.propertyChanged old new) s).1 =
      match ((condition.check context record raw).run s).1 with
      | .ok verdict => verdict
      | .error _ => false := by
  rw [Trigger.fires, Condition.holds, hv]
  cases hc : (condition.check context record raw).run s with
  | mk result s' =>
    refine (congrArg Prod.fst (bind_run hc)).trans ?_
    cases result <;> rfl

/-- Where a comparison is ill-typed, a predicate with it fires on no set value; on the unset one it
fires exactly if its operator holds of nothing. The clock may show any moment. -/
theorem fires_iff_of_illTyped {condition : Condition} {c : Comparison}
    (hc : condition.comparison? = some c) {now : Moment} (hi : condition.IllTyped c now)
    {name : String} {old new : Fields Json} {raw : Json} (hv : new.get? name = some raw)
    {property : Property} (hd : Property.decode raw = .ok property)
    (hk : condition.Covers property.payload) (s : σ) :
    ((Trigger.property name condition).fires context record (.propertyChanged old new) s).1 = true ↔
      Comparable.ofPayload property.payload = .empty ∧ c.operator.holdsOfUnset = true := by
  rw [fires_property context record hv, check_of_covers context record hc hd hk]
  by_cases hu : Comparable.ofPayload property.payload = .empty
  · have hempty := comparable_of_empty (context.items record) hu s
    rw [check_of_comparable context record c hempty, c.holds_empty]
    exact (and_iff_right hu).symm
  · have hundecided : ∀ s value, (property.comparable (context.items record) s).1 = .ok value →
        ∀ now, ∃ error, c.holds value now = .error error := by
      intro s value hvalue now
      rcases comparable_shape _ property hvalue with rfl | ⟨hlist, hpayload⟩
      · exact hi.undecided hk hu now
      · exact c.holds_of_not_fits hlist (hi.not_fits hk hpayload) now
    obtain ⟨error, he⟩ := check_undecided context record c property hundecided s
    rw [he]
    exact iff_of_false Bool.false_ne_true fun h => hu h.1

end

/-- A select compared with a number. -/
def stageComparison : Comparison := ⟨.doesNotEqual, .integer 5⟩

/-- A select without an option. -/
def unsetStage : Json :=
  .object [("id", .string "st"), ("select", .null), ("type", .string "select")]

/-- No option is compared with a number, but a select without an option fires. -/
theorem fires_unsetStage :
    (Condition.simple .select stageComparison).IllTyped stageComparison ⟨default, .utc⟩ ∧
      ((Trigger.property "Stage" (.simple .select stageComparison)).fires
        (Context.fixed (fun _ _ => .ok []) ⟨default, .utc⟩) "r1"
        (.propertyChanged [] [("Stage", unsetStage)]) ()).1 = true := by
  have hill : (Condition.simple .select stageComparison).IllTyped stageComparison
      ⟨default, .utc⟩ := by
    intro payload hk hset
    cases payload with
    | select option =>
      cases option with
      | none => cases hset
      | some name => exact (stageComparison.rejects_text name _).mpr rfl
    | _ => cases hk
  have hdecode : Property.decode unsetStage = .ok ⟨some "st", .select none⟩ := rfl
  exact ⟨hill, (fires_iff_of_illTyped _ "r1" rfl hill rfl hdecode rfl ()).mpr ⟨rfl, rfl⟩⟩

end RecordWatch
