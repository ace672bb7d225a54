import RecordWatch.Proofs.Comparison.Dates

/-! Opposite operators. An operator and its opposite look at the same value and read the operand in
the same form, so neither has a verdict where the other has none, and their verdicts differ. Of two
dates that can be read the first is before the second, or the same, or after it. -/

namespace RecordWatch

/-- Operators that deny each other beside a value: three pairs beside every value, two more beside
dates. -/
inductive Operator.Opposite : Comparable → Operator → Operator → Prop
  | equals (value : Comparable) : Opposite value .equals .doesNotEqual
  | contains (value : Comparable) : Opposite value .contains .doesNotContain
  | isEmpty (value : Comparable) : Opposite value .isEmpty .isNotEmpty
  | before (d : String) : Opposite (.date d) .before .onOrAfter
  | after (d : String) : Opposite (.date d) .after .onOrBefore

/-- The same error of another operator. -/
def CompareError.withOperator (operator : Operator) : CompareError → CompareError
  | .unsupported _ shape => .unsupported operator shape
  | .operand _ expected given => .operand operator expected given
  | .date input => .date input
  | .arrayNeedsQuantifier => .arrayNeedsQuantifier

section

variable {α β : Type} {other : Operator}

/-- What one operator and another come to: results that are related, or the same error. -/
inductive Alike (other : Operator) (related : α → α → Prop) :
    Except CompareError α → Except CompareError α → Prop
  | ok {a b : α} (h : related a b) : Alike other related (.ok a) (.ok b)
  | error (error : CompareError) :
    Alike other related (.error error) (.error (error.withOperator other))

/-- The verdicts of two operators are opposite: each denies the other, or both are missing. -/
def Opposed (other : Operator) : Except CompareError Bool → Except CompareError Bool → Prop :=
  Alike other fun verdict denial => denial = !verdict

/-- What follows on the same reading is alike if it is alike for each thing read. -/
theorem Alike.bind {related : β → β → Prop} {p q : Except CompareError α}
    {f g : α → Except CompareError β} (h : Alike other Eq p q)
    (hnext : ∀ a, Alike other related (f a) (g a)) : Alike other related (p >>= f) (q >>= g) := by
  cases h with
  | ok hab =>
    subst hab
    exact hnext _
  | error error => exact .error error

theorem Opposed.of_ok {verdict : Bool} {q : Except CompareError Bool}
    (h : Opposed other (.ok verdict) q) : q = .ok !verdict := by
  cases h with
  | ok h => rw [h]

theorem Alike.opposed {p q : Except CompareError α} {verdict denial : α → Bool}
    (h : Alike other Eq p q) (hdenial : ∀ a, denial a = !verdict a) :
    Opposed other (p >>= fun a => pure (verdict a)) (q >>= fun a => pure (denial a)) :=
  h.bind fun a => .ok (hdenial a)

end

namespace Comparison

variable (operator other : Operator) (operand : Json)

/-- The operand is read alike. -/
theorem alike_operandAs {α : Type} (expected : String) (read : Json → Option α) :
    Alike other Eq (operandAs ⟨operator, operand⟩ expected read)
      (operandAs ⟨other, operand⟩ expected read) := by
  unfold operandAs
  dsimp only
  cases read operand with
  | some a => exact .ok rfl
  | none => exact .error (.operand operator expected operand)

/-- No operator has a part in reading a date. -/
theorem alike_dateIn (zone : Zone) (input : String) :
    Alike other Eq (dateIn zone input) (dateIn zone input) := by
  unfold dateIn
  cases Instant.ofText? input zone with
  | some t => exact .ok rfl
  | none => exact .error (.date input)

theorem alike_reference (zone : Zone) :
    Alike other Eq
      (stringOperand ⟨operator, operand⟩ >>= fun text =>
        dateIn zone text >>= fun t => pure t.nanoseconds)
      (stringOperand ⟨other, operand⟩ >>= fun text =>
        dateIn zone text >>= fun t => pure t.nanoseconds) := by
  refine (alike_operandAs operator other operand _ _).bind fun text => ?_
  exact (alike_dateIn other zone text).bind fun t => .ok rfl

variable {operator other} {value : Comparable}

theorem opposed_bool {b : Bool} (h : Operator.Opposite (.bool b) operator other) :
    Opposed other (onBool ⟨operator, operand⟩ b) (onBool ⟨other, operand⟩ b) := by
  cases h with
  | equals => exact (alike_operandAs ..).opposed fun expected => rfl
  | contains => exact .error (.unsupported .contains "checkbox")
  | isEmpty => exact .error (.unsupported .isEmpty "checkbox")

theorem opposed_number {n : Double} {now : Moment}
    (h : Operator.Opposite (.number n) operator other) :
    Opposed other (holds ⟨operator, operand⟩ (.number n) now)
      (holds ⟨other, operand⟩ (.number n) now) := by
  cases h with
  | equals => exact (alike_operandAs ..).opposed fun expected => rfl
  | contains => exact .error (.unsupported .contains "number")
  | isEmpty => exact .ok rfl

theorem opposed_text {s : String} (h : Operator.Opposite (.text s) operator other) :
    Opposed other (onText ⟨operator, operand⟩ s) (onText ⟨other, operand⟩ s) := by
  cases h with
  | equals => exact (alike_operandAs ..).opposed fun expected => rfl
  | contains => exact (alike_operandAs ..).opposed fun part => rfl
  | isEmpty => exact .ok rfl

theorem opposed_list {items : List String} (h : Operator.Opposite (.list items) operator other) :
    Opposed other (onList ⟨operator, operand⟩ items) (onList ⟨other, operand⟩ items) := by
  cases h with
  | equals => exact (alike_operandAs ..).opposed fun expected => rfl
  | contains => exact (alike_operandAs ..).opposed fun item => rfl
  | isEmpty => exact .ok rfl

theorem opposed_date {d : String} {now : Moment} (h : Operator.Opposite (.date d) operator other) :
    Opposed other (holds ⟨operator, operand⟩ (.date d) now)
      (holds ⟨other, operand⟩ (.date d) now) := by
  -- The date is read before the operator is looked at.
  have hread := alike_dateIn other now.zone d
  cases h with
  | equals => exact hread.bind fun t => (alike_reference ..).opposed fun r => rfl
  | contains => exact hread.bind fun _ => .error (.unsupported .contains "date")
  | isEmpty => exact .ok rfl
  | before =>
    refine hread.bind fun t => (alike_reference ..).opposed fun r => ?_
    rw [← decide_not]
    exact decide_eq_decide.mpr Int.not_lt.symm
  | after =>
    refine hread.bind fun t => (alike_reference ..).opposed fun r => ?_
    rw [← decide_not]
    exact decide_eq_decide.mpr Int.not_lt.symm

theorem opposed_holds (now : Moment) (h : Operator.Opposite value operator other) :
    Opposed other (holds ⟨operator, operand⟩ value now) (holds ⟨other, operand⟩ value now) := by
  cases value with
  | array elements => exact .error .arrayNeedsQuantifier
  | empty => cases h <;> exact .ok rfl
  | bool b => exact opposed_bool operand h
  | number n => exact opposed_number operand h
  | text s => exact opposed_text operand h
  | list items => exact opposed_list operand h
  | date d => exact opposed_date operand h

end Comparison

/-! ### The order of dates -/

/-- The operators of which exactly one holds of two dates. -/
def Operator.exclusive : List Operator := [.before, .equals, .after]

namespace Comparison

/-- Beside every value, operand and moment an operator and its opposite have opposite verdicts, or
neither has one. Where a date and its operand can be read, the first is before the second, or equal
to it, or after it, and only one of these. -/
theorem opposite_operators (operand : Json) (now : Moment) :
    (∀ value operator other, Operator.Opposite value operator other →
      Opposed other (holds ⟨operator, operand⟩ value now) (holds ⟨other, operand⟩ value now)) ∧
    ∀ d text t t', Instant.ofText? d now.zone = some t → operand = .string text →
      Instant.ofText? text now.zone = some t' →
      ∃ operator ∈ Operator.exclusive, ∀ other ∈ Operator.exclusive,
        holds ⟨other, operand⟩ (.date d) now = .ok (decide (other = operator)) := by
  constructor
  · intro value operator other h
    exact opposed_holds operand now h
  · rintro d text t t' hd rfl htext
    obtain ⟨hbefore, hequals, hafter⟩ := holds_exclusive now hd htext
    rcases Int.lt_trichotomy t.nanoseconds t'.nanoseconds with hlt | heq | hgt
    · have hne : t.nanoseconds ≠ t'.nanoseconds := by omega
      have hle : ¬t'.nanoseconds < t.nanoseconds := by omega
      refine ⟨.before, by decide, ?_⟩
      simp [Operator.exclusive, hbefore, hequals, hafter, hlt, hne, hle]
    · refine ⟨.equals, by decide, ?_⟩
      simp [Operator.exclusive, hbefore, hequals, hafter, heq]
    · have hne : t.nanoseconds ≠ t'.nanoseconds := by omega
      have hle : ¬t.nanoseconds < t'.nanoseconds := by omega
      refine ⟨.after, by decide, ?_⟩
      simp [Operator.exclusive, hbefore, hequals, hafter, hgt, hne, hle]

/-- A date without a time is its midnight: it equals that, and is neither before nor after it. -/
theorem opposite_operators_midnight :
    Instant.ofText? "1970-01-02" .utc = Instant.ofText? "1970-01-02T00:00:00Z" .utc ∧
      ∀ operator ∈ [.before, .after, .doesNotEqual],
        holds ⟨operator, .string "1970-01-02T00:00:00Z"⟩ (.date "1970-01-02") ⟨default, .utc⟩ =
          .ok false := by
  have hdate : Instant.ofText? "1970-01-02" .utc = some ⟨day, by decide, by decide⟩ := by
    decide +kernel
  have htext : Instant.ofText? "1970-01-02T00:00:00Z" .utc = some ⟨day, by decide, by decide⟩ := by
    decide +kernel
  obtain ⟨hopposed, hordered⟩ :=
    opposite_operators (.string "1970-01-02T00:00:00Z") ⟨default, .utc⟩
  obtain ⟨-, hequals, -⟩ := holds_exclusive ⟨default, .utc⟩ hdate htext
  rw [beq_self_eq_true] at hequals
  obtain ⟨operator, -, hholds⟩ := hordered _ _ _ _ hdate rfl htext
  obtain rfl : .equals = operator := by
    have h := hequals.symm.trans (hholds .equals (by decide))
    simpa using h
  have hdenied := hopposed _ _ _ (.equals (.date "1970-01-02"))
  rw [hequals] at hdenied
  refine ⟨hdate.trans htext.symm, ?_⟩
  rw [List.forall_mem_cons, List.forall_mem_cons, List.forall_mem_singleton]
  exact ⟨hholds .before (by decide), hholds .after (by decide), hdenied.of_ok⟩

end Comparison

end RecordWatch
