import RecordWatch.Proofs.Evaluation.Damage

/-! Quantified conditions on the arrays of rollups. The elements are checked one after the other,
each as if it were the only new value of the property. An error, however deep the element that it
comes from, leaves all three quantifiers without a verdict; without errors they say what their names
say, and `every` asks for an element. -/

namespace RecordWatch

variable {σ : Type} (c : Context (StateM σ)) (record : String)

/-! ### Elements in their turn -/

/-- When the elements of a list are checked one after the other from state `s`, one of them is
checked in state `t`. An error does not keep the later elements from their turn. -/
inductive Turn (condition : Condition) : List Json → σ → Json → σ → Prop
  | first {element : Json} {rest : List Json} {s : σ} :
    Turn condition (element :: rest) s element s
  | later {other element : Json} {rest : List Json} {s t : σ}
    (h : Turn condition rest ((condition.check c record other).run s).2 element t) :
    Turn condition (other :: rest) s element t

/-- The check of a value errs in state `s`, or that of an element of its array does in its turn, at
any depth. -/
inductive Errs : Condition → Json → σ → Prop
  | check {condition : Condition} {raw : Json} {s : σ} {error : PredicateError}
    (h : ((condition.check c record raw).run s).1 = .error error) : Errs condition raw s
  | element {quantifier : Quantifier} {inner : Condition} {raw element : Json}
    {id : Option String} {elements : List Json} {s t : σ}
    (hd : Property.decode raw = .ok ⟨id, .rollup (.array elements)⟩)
    (ht : Turn c record inner elements s element t) (h : Errs inner element t) :
    Errs (.quantified quantifier inner) raw s

/-- In state `s` a condition on a property holds of an element, taken for the only new value of the
property. -/
def Satisfies (property : String) (condition : Condition) (element : Json) (s : σ) : Prop :=
  (condition.holds c record property (.single property element) s).1 = true

/-- The verdicts of the three quantifiers say of the elements of an array, each in its turn, what
the names of the quantifiers say. -/
structure QuantifierLaws (verdict : Quantifier → Bool) (elements : List Json)
    (turn satisfies : Json → σ → Prop) : Prop where
  any : verdict .any = true ↔ ∃ element t, turn element t ∧ satisfies element t
  no : verdict .no = true ↔ ¬∃ element t, turn element t ∧ satisfies element t
  /-- Exactly one of the two holds. -/
  opposite : verdict .no = !verdict .any
  every : verdict .every = true ↔
    elements ≠ [] ∧ ∀ element t, turn element t → satisfies element t

variable {c record}

/-! ### The verdicts of all elements -/

namespace Turn

variable {condition : Condition} {elements : List Json} {element : Json} {s t : σ}

theorem mem (h : Turn c record condition elements s element t) : element ∈ elements := by
  induction h with
  | first => exact List.mem_cons_self
  | later _ ih => exact List.mem_cons_of_mem _ ih

/-- Every element has its turn. -/
theorem exists_iff : (∃ t, Turn c record condition elements s element t) ↔ element ∈ elements := by
  refine ⟨fun ⟨t, h⟩ => h.mem, fun h => ?_⟩
  induction elements generalizing s with
  | nil => cases h
  | cons first rest ih =>
    rcases List.mem_cons.mp h with rfl | h
    · exact ⟨s, .first⟩
    · obtain ⟨t, ht⟩ := ih h
      exact ⟨t, .later ht⟩

/-- The first element that errs decides; otherwise each element adds its verdict. -/
theorem fst_mapM_cons (first : Json) (rest : List Json) :
    (((first :: rest).mapM (condition.check c record)).run s).1 =
      ((condition.check c record first).run s).1.bind fun verdict =>
        ((rest.mapM (condition.check c record)).run
          ((condition.check c record first).run s).2).1.map (verdict :: ·) := by
  rw [List.mapM_cons]
  rcases hf : (condition.check c record first).run s with ⟨_ | verdict, s'⟩
  · rw [error_run hf]
    rfl
  rw [ok_run hf]
  show _ = ((rest.mapM (condition.check c record)).run s').1.map (verdict :: ·)
  rcases hr : (rest.mapM (condition.check c record)).run s' with ⟨_ | others, s''⟩
  · rw [error_run hr]
    rfl
  · rw [ok_run hr]
    rfl

/-- If all elements have verdicts, these are the verdicts of the turns. -/
theorem of_mapM_ok {verdicts : List Bool}
    (h : ((elements.mapM (condition.check c record)).run s).1 = .ok verdicts) :
    (∀ element t, Turn c record condition elements s element t →
      ∃ verdict ∈ verdicts, ((condition.check c record element).run t).1 = .ok verdict) ∧
    ∀ verdict ∈ verdicts, ∃ element t, Turn c record condition elements s element t ∧
      ((condition.check c record element).run t).1 = .ok verdict := by
  induction elements generalizing s verdicts with
  | nil =>
    cases h
    exact ⟨fun _ _ ht => absurd ht.mem List.not_mem_nil, fun _ hv => absurd hv List.not_mem_nil⟩
  | cons first rest ih =>
    rw [fst_mapM_cons] at h
    cases hf : ((condition.check c record first).run s).1 with
    | error error => rw [hf] at h; cases h
    | ok verdict =>
      cases hr : ((rest.mapM (condition.check c record)).run
          ((condition.check c record first).run s).2).1 with
      | error error => rw [hf, Except.bind, hr] at h; cases h
      | ok others =>
        rw [hf, Except.bind, hr] at h
        cases h
        obtain ⟨hturns, hverdicts⟩ := ih hr
        constructor
        · intro element t ht
          cases ht with
          | first => exact ⟨verdict, List.mem_cons_self, hf⟩
          | later ht =>
            obtain ⟨other, ho, heq⟩ := hturns element t ht
            exact ⟨other, List.mem_cons_of_mem _ ho, heq⟩
        · intro other ho
          rcases List.mem_cons.mp ho with rfl | ho
          · exact ⟨first, s, .first, hf⟩
          · obtain ⟨element, t, ht, heq⟩ := hverdicts other ho
            exact ⟨element, t, .later ht, heq⟩

/-- An error of the whole is that of an element in its turn. -/
theorem of_mapM_error {error : PredicateError}
    (h : ((elements.mapM (condition.check c record)).run s).1 = .error error) :
    ∃ element t, Turn c record condition elements s element t ∧
      ((condition.check c record element).run t).1 = .error error := by
  induction elements generalizing s with
  | nil => cases h
  | cons first rest ih =>
    rw [fst_mapM_cons] at h
    cases hf : ((condition.check c record first).run s).1 with
    | error other =>
      rw [hf] at h
      cases h
      exact ⟨first, s, .first, hf⟩
    | ok verdict =>
      rw [hf, Except.bind] at h
      cases hr : ((rest.mapM (condition.check c record)).run
          ((condition.check c record first).run s).2).1 with
      | ok others => rw [hr] at h; cases h
      | error other =>
        rw [hr] at h
        cases h
        obtain ⟨element, t, ht, heq⟩ := ih hr
        exact ⟨element, t, .later ht, heq⟩

end Turn

/-! ### Errors at any depth -/

section

variable {raw : Json} {id : Option String} {elements : List Json}
  (hd : Property.decode raw = .ok ⟨id, .rollup (.array elements)⟩) {inner : Condition} {s : σ}
include hd

theorem fst_check_quantified (quantifier : Quantifier) :
    (((Condition.quantified quantifier inner).check c record raw).run s).1 =
      ((elements.mapM (inner.check c record)).run s).1.map quantifier.combine := by
  rw [check_quantified c record hd]
  rcases hr : (elements.mapM (inner.check c record)).run s with ⟨result, s'⟩
  cases result with
  | ok verdicts => rw [ok_run hr]; rfl
  | error error => rw [error_run hr]; rfl

/-- An element that errs in its turn leaves the array without a verdict. -/
theorem check_quantified_of_turn {element : Json} {t : σ} {error : PredicateError}
    (ht : Turn c record inner elements s element t)
    (h : ((inner.check c record element).run t).1 = .error error) (quantifier : Quantifier) :
    ∃ first, (((Condition.quantified quantifier inner).check c record raw).run s).1 =
      .error first := by
  rw [fst_check_quantified hd]
  cases hall : ((elements.mapM (inner.check c record)).run s).1 with
  | error first => exact ⟨first, rfl⟩
  | ok verdicts =>
    obtain ⟨verdict, -, heq⟩ := (Turn.of_mapM_ok hall).1 element t ht
    rw [h] at heq
    cases heq

end

/-- Errors cross every level of quantifiers. -/
theorem errs_iff {condition : Condition} {raw : Json} {s : σ} :
    Errs c record condition raw s ↔
      ∃ error, ((condition.check c record raw).run s).1 = .error error := by
  refine ⟨fun h => ?_, fun ⟨error, he⟩ => .check he⟩
  induction h with
  | check h => exact ⟨_, h⟩
  | element hd ht _ ih =>
    obtain ⟨error, he⟩ := ih
    exact check_quantified_of_turn hd ht he _

/-! ### Predicates -/

/-- A predicate holds of a new value if the check of its condition says so. -/
theorem Condition.holds_eq_true_iff {property : String} {condition : Condition}
    (old : Fields Json) {new : Fields Json} {raw : Json} {s : σ}
    (hn : new.get? property = some raw) :
    (condition.holds c record property (.propertyChanged old new) s).1 = true ↔
      ((condition.check c record raw).run s).1 = .ok true := by
  simp only [Condition.holds, hn]
  rcases hr : (condition.check c record raw).run s with ⟨result, s'⟩
  rw [bind_run hr]
  cases result with
  | ok verdict => exact ⟨congrArg Except.ok, Except.ok.inj⟩
  | error error => exact iff_of_false Bool.false_ne_true fun h => by cases h

theorem satisfies_iff {property : String} {condition : Condition} {element : Json} {s : σ} :
    Satisfies c record property condition element s ↔
      ((condition.check c record element).run s).1 = .ok true :=
  condition.holds_eq_true_iff [] (by simp [Fields.get?])

/-- A check depends on its context only through the lookups of its record and the clock. -/
theorem Condition.check_congr {d : Context (StateM σ)} (hi : d.items record = c.items record)
    (hn : d.now = c.now) (condition : Condition) :
    condition.check d record = condition.check c record := by
  have hc (property : Property) (comparison : Comparison) :
      comparison.check d record property = comparison.check c record property := by
    rw [Comparison.check, Comparison.check, hi, hn]
  induction condition with
  | quantified quantifier inner ih =>
    funext raw
    rw [Condition.check, Condition.check, ih]
  | _ =>
    funext raw
    simp only [Condition.check, hc]

/-- Where lookups answer as a function of what they are asked, at one moment, a check comes to the
same in every state. -/
theorem Context.Answers.check_eq {answers : Lookups} {moment : Moment}
    (h : c.Answers answers moment) (condition : Condition) (raw : Json) (s t : σ) :
    ((condition.check c record raw).run s).1 = ((condition.check c record raw).run t).1 := by
  have hrelated : Context.Related (fun _ _ : σ => True) c c := by
    constructor
    · exact fun record property => Yields.of_fst fun s t => by rw [h.items, h.items]
    · exact Yields.of_fst fun s t => by rw [h.now, h.now]
    · exact fun event => Yields.of_fst fun s t => rfl
  exact (hrelated.alike.check record condition raw s t trivial).1

/-- The verdicts of all elements, combined, say what the quantifiers say. -/
theorem quantifierLaws_of_ok (property : String) {condition : Condition} {elements : List Json}
    {s : σ} {verdicts : List Bool}
    (h : ((elements.mapM (condition.check c record)).run s).1 = .ok verdicts) :
    QuantifierLaws (fun quantifier => quantifier.combine verdicts) elements
      (Turn c record condition elements s) (Satisfies c record property condition) := by
  obtain ⟨hturns, hverdicts⟩ := Turn.of_mapM_ok h
  have hany : verdicts.any id = true ↔ ∃ element t, Turn c record condition elements s element t ∧
      Satisfies c record property condition element t := by
    rw [List.any_eq_true]
    constructor
    · rintro ⟨verdict, hv, rfl⟩
      obtain ⟨element, t, ht, heq⟩ := hverdicts _ hv
      exact ⟨element, t, ht, satisfies_iff.mpr heq⟩
    · rintro ⟨element, t, ht, hs⟩
      obtain ⟨verdict, hv, heq⟩ := hturns element t ht
      rw [satisfies_iff.mp hs] at heq
      exact ⟨verdict, hv, (Except.ok.inj heq).symm⟩
  have hall : verdicts.all id = true ↔ ∀ element t, Turn c record condition elements s element t →
      Satisfies c record property condition element t := by
    rw [List.all_eq_true]
    constructor
    · intro hid element t ht
      obtain ⟨verdict, hv, heq⟩ := hturns element t ht
      rw [satisfies_iff, heq, show verdict = true from hid verdict hv]
    · intro hs verdict hv
      obtain ⟨element, t, ht, heq⟩ := hverdicts verdict hv
      have htrue := satisfies_iff.mp (hs element t ht)
      rw [heq] at htrue
      exact Except.ok.inj htrue
  have hempty : verdicts = [] ↔ elements = [] := by
    constructor
    · rintro rfl
      cases elements with
      | nil => rfl
      | cons first rest =>
        obtain ⟨verdict, hv, -⟩ := hturns first s .first
        cases hv
    · rintro rfl
      cases h
      rfl
  constructor
  · exact hany
  · rw [← hany]
    simp [Quantifier.combine]
  · rfl
  · rw [← hall, Ne, ← hempty]
    simp [Quantifier.combine]

variable (c record) in
/-- The three quantifiers mean what they say about the elements of an array, at every depth. Each
element has its turn, and if the check of one errs, none of the predicates holds. The elements are
checked for the property and the record of the whole: they are taken for values of this property,
and all lookups are those of this record. Where lookups and the clock answer the same throughout, it
does not matter whose turn it is. -/
theorem fires_quantified {property : String} (old : Fields Json) {new : Fields Json} {raw : Json}
    {id : Option String} {elements : List Json} (hn : new.get? property = some raw)
    (hd : Property.decode raw = .ok ⟨id, .rollup (.array elements)⟩) (inner : Condition) (s : σ) :
    ((∃ element t, Turn c record inner elements s element t ∧ Errs c record inner element t) →
      ∀ quantifier, ((Trigger.property property (.quantified quantifier inner)).fires c record
        (.propertyChanged old new) s).1 = false) ∧
    ((¬∃ element t, Turn c record inner elements s element t ∧ Errs c record inner element t) →
      QuantifierLaws
        (fun quantifier => ((Trigger.property property (.quantified quantifier inner)).fires c
          record (.propertyChanged old new) s).1)
        elements (Turn c record inner elements s) (Satisfies c record property inner)) ∧
    (∀ element, (∃ t, Turn c record inner elements s element t) ↔ element ∈ elements) ∧
    (∀ d : Context (StateM σ), d.items record = c.items record → d.now = c.now →
      inner.check d record = inner.check c record) ∧
    ∀ answers moment, c.Answers answers moment → ∀ element t t',
      (Satisfies c record property inner element t ↔
        Satisfies c record property inner element t') ∧
      (Errs c record inner element t ↔ Errs c record inner element t') := by
  have hfires (quantifier : Quantifier) :
      ((Trigger.property property (.quantified quantifier inner)).fires c record
        (.propertyChanged old new) s).1 = true ↔
      ((elements.mapM (inner.check c record)).run s).1.map quantifier.combine = .ok true := by
    rw [Trigger.fires, Condition.holds_eq_true_iff old hn, fst_check_quantified hd]
  refine ⟨?_, fun hok => ?_, fun _ => Turn.exists_iff, fun d hi hnow => inner.check_congr hi hnow,
    fun answers moment ha element t t' => ?_⟩
  · rintro ⟨element, t, ht, he⟩ quantifier
    obtain ⟨error, herror⟩ := errs_iff.mp he
    obtain ⟨first, hfirst⟩ := check_quantified_of_turn hd ht herror quantifier
    refine Bool.eq_false_iff.mpr fun htrue => ?_
    rw [hfires, ← fst_check_quantified hd, hfirst] at htrue
    cases htrue
  · cases hall : ((elements.mapM (inner.check c record)).run s).1 with
    | error error =>
      obtain ⟨element, t, ht, he⟩ := Turn.of_mapM_error hall
      exact absurd ⟨element, t, ht, .check he⟩ hok
    | ok verdicts =>
      have hverdict : (fun quantifier : Quantifier =>
          ((Trigger.property property (.quantified quantifier inner)).fires c record
            (.propertyChanged old new) s).1) = fun quantifier => quantifier.combine verdicts := by
        funext quantifier
        rw [Bool.eq_iff_iff, hfires, hall]
        exact ⟨Except.ok.inj, congrArg Except.ok⟩
      rw [hverdict]
      exact quantifierLaws_of_ok property hall
  · rw [satisfies_iff, satisfies_iff, errs_iff, errs_iff, ha.check_eq inner element t t']
    exact ⟨Iff.rfl, Iff.rfl⟩

/-- Whether a box is checked. -/
def boxChecked : Condition := .simple .checkbox ⟨.equals, .bool true⟩

/-- New values with a rollup of these elements. -/
def rolledUp (elements : List Json) : Fields Json := [("Jobs", .object (rawRollup elements))]

/-- The verdict of a quantified predicate on the change to a rollup of these elements. -/
def jobsVerdict (elements : List Json) (inner : Condition) (quantifier : Quantifier) : Bool :=
  ((Trigger.property "Jobs" (.quantified quantifier inner)).fires
    (Context.fixed (fun _ _ => .ok []) ⟨default, .utc⟩) "r1"
    (.propertyChanged [] (rolledUp elements)) ()).1

/-- Where the second of two inner rollups has a garbled box, no quantifier holds of them. Of a
checked and an unchecked box some are checked, but not all. -/
theorem fires_quantified_boxes :
    (∀ quantifier, jobsVerdict [.object (rawRollup [rawCheckbox (.bool true)]),
      .object (rawRollup [rawCheckbox .null])] (.quantified .every boxChecked) quantifier = false) ∧
    jobsVerdict [rawCheckbox (.bool true), rawCheckbox (.bool false)] boxChecked .any = true ∧
    jobsVerdict [rawCheckbox (.bool true), rawCheckbox (.bool false)] boxChecked .no = false ∧
    jobsVerdict [rawCheckbox (.bool true), rawCheckbox (.bool false)] boxChecked .every =
      false := by
  have hd (elements : List Json) := (isRollup_rawRollup elements).decode
  have hnew (elements : List Json) :
      (rolledUp elements).get? "Jobs" = some (.object (rawRollup elements)) := rfl
  constructor
  · have hgarbled : Errs (Context.fixed (fun _ _ => .ok []) ⟨default, .utc⟩) "r1" boxChecked
        (rawCheckbox .null) () := .check rfl
    exact (fires_quantified _ _ [] (hnew _) (hd _) _ ()).1
      ⟨_, (), .later .first, .element (hd _) .first hgarbled⟩
  · have hlaws := (fires_quantified (Context.fixed (fun _ _ => .ok []) ⟨default, .utc⟩) "r1" []
      (hnew [rawCheckbox (.bool true), rawCheckbox (.bool false)]) (hd _) boxChecked ()).2.1 <| by
      rintro ⟨element, t, ht, he⟩
      obtain ⟨error, herror⟩ := errs_iff.mp he
      cases ht with
      | first => cases herror
      | later ht =>
        cases ht with
        | first => cases herror
        | later ht => cases ht
    have hany := hlaws.any.mpr ⟨_, _, .first, rfl⟩
    refine ⟨hany, ?_, Bool.eq_false_iff.mpr fun hevery => ?_⟩
    · rw [jobsVerdict, hlaws.opposite, hany]
      rfl
    · exact Bool.false_ne_true ((hlaws.every.mp hevery).2 _ _ (.later .first))

end RecordWatch
