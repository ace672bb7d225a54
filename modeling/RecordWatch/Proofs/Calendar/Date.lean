import Mathlib.Logic.Function.Iterate
import Mathlib.Tactic.IntervalCases
import RecordWatch.Calendar.Date

/-! The count of days. Each day has one civil date and each civil date one day; the date of the next
day is the next date of the calendar, so counting on from 1970-01-01 passes through all dates in
their order. -/

namespace RecordWatch

namespace Date

/-- The date after a date. -/
def next (d : Date) : Date :=
  if d.day < daysInMonth d.year d.month then ⟨d.year, d.month, d.day + 1⟩
  else if d.month < 12 then ⟨d.year, d.month + 1, 1⟩
  else ⟨d.year + 1, 1, 1⟩

/-- Dates are ordered by year, then month, then day. -/
instance : LE Date where
  le a b := a.year < b.year ∨
    a.year = b.year ∧ (a.month < b.month ∨ a.month = b.month ∧ a.day ≤ b.day)

instance (a b : Date) : Decidable (a ≤ b) :=
  inferInstanceAs (Decidable (a.year < b.year ∨
    a.year = b.year ∧ (a.month < b.month ∨ a.month = b.month ∧ a.day ≤ b.day)))

theorem le_iff {a b : Date} : a ≤ b ↔ a.year < b.year ∨
    a.year = b.year ∧ (a.month < b.month ∨ a.month = b.month ∧ a.day ≤ b.day) := Iff.rfl

theorem valid_iff {d : Date} : d.valid = true ↔
    (1 ≤ d.month ∧ d.month ≤ 12) ∧ 1 ≤ d.day ∧ d.day ≤ daysInMonth d.year d.month := by
  rw [valid, decide_eq_true_iff, and_assoc]

theorem isLeap_iff {year : Int} :
    isLeap year = true ↔ year % 4 = 0 ∧ (year % 100 ≠ 0 ∨ year % 400 = 0) := by
  simp [isLeap]

theorem daysInMonth_pos (year : Int) (month : Nat) : 0 < daysInMonth year month := by
  unfold daysInMonth
  repeat' split
  all_goals decide

/-! ### From dates to days -/

/-- The days of all years before a year, where years begin in March and the count begins with the
year zero. -/
def elapsed (year : Int) : Int := 365 * year + year / 4 - year / 100 + year / 400

/-- The days of a year that begins in March before one of its months. -/
def beforeMonth (month : Nat) : Int := ((153 * month + 2) / 5 : Nat)

theorem elapsed_le_elapsed {year year' : Int} (h : year ≤ year') :
    elapsed year ≤ elapsed year' := by
  unfold elapsed
  omega

theorem elapsed_cycle {cycle year : Int} (h : 0 ≤ year ∧ year < 400) :
    elapsed (year + cycle * 400) = cycle * 146097 + year * 365 + year / 4 - year / 100 := by
  unfold elapsed
  omega

theorem cycle_eq (year : Int) :
    year.fdiv 400 * 146097 + (year - year.fdiv 400 * 400) * 365 +
        (year - year.fdiv 400 * 400) / 4 - (year - year.fdiv 400 * 400) / 100 = elapsed year := by
  rw [Int.fdiv_eq_ediv_of_nonneg year (by decide), ← elapsed_cycle (by omega), Int.sub_add_cancel]

theorem toDays_january {year : Int} {month day : Nat} (hm : month ≤ 2) (hd : 1 ≤ day) :
    toDays ⟨year, month, day⟩ =
      elapsed (year - 1) + beforeMonth (month + 9) + (day - 1) - 719468 := by
  simp only [toDays, if_pos hm, cycle_eq, beforeMonth]
  omega

theorem toDays_march {year : Int} {month day : Nat} (hm : 2 < month) (hd : 1 ≤ day) :
    toDays ⟨year, month, day⟩ =
      elapsed year + beforeMonth (month - 3) + (day - 1) - 719468 := by
  simp only [toDays, if_neg (Nat.not_le.mpr hm), cycle_eq, beforeMonth]
  omega

/-- A date is as many days after the first of its month as its day says. -/
theorem toDays_eq_first (year : Int) (month : Nat) {day : Nat} (hd : 1 ≤ day) :
    toDays ⟨year, month, day⟩ = toDays ⟨year, month, 1⟩ + (day - 1) := by
  rcases Nat.lt_or_ge 2 month with hm | hm
  · rw [toDays_march hm hd, toDays_march hm (Nat.le_refl 1)]
    omega
  · rw [toDays_january hm hd, toDays_january hm (Nat.le_refl 1)]
    omega

theorem elapsed_sub_one (year : Int) :
    elapsed year = elapsed (year - 1) + if isLeap year then 366 else 365 := by
  unfold elapsed
  split
  · next hleap =>
    rw [isLeap_iff] at hleap
    omega
  · next hleap =>
    rw [isLeap_iff] at hleap
    omega

/-- The first of the next month is as many days later as the month has. -/
theorem toDays_nextMonth (year : Int) {month : Nat} (h : 1 ≤ month ∧ month < 12) :
    toDays ⟨year, month + 1, 1⟩ = toDays ⟨year, month, 1⟩ + daysInMonth year month := by
  obtain ⟨hfirst, hlast⟩ := h
  rcases Nat.lt_trichotomy month 2 with hm | rfl | hm
  · rw [toDays_january (by omega) (Nat.le_refl 1), toDays_january (by omega) (Nat.le_refl 1)]
    obtain rfl : month = 1 := by omega
    norm_num [beforeMonth, daysInMonth]
    omega
  · -- The year that begins in March ends with the leap day.
    rw [toDays_march (by omega) (Nat.le_refl 1), toDays_january (by omega) (Nat.le_refl 1),
      elapsed_sub_one year]
    simp only [beforeMonth, daysInMonth, if_pos]
    split <;> omega
  · rw [toDays_march (by omega) (Nat.le_refl 1), toDays_march (by omega) (Nat.le_refl 1)]
    interval_cases month <;> norm_num [beforeMonth, daysInMonth] <;> omega

theorem toDays_nextYear (year : Int) :
    toDays ⟨year + 1, 1, 1⟩ = toDays ⟨year, 12, 1⟩ + daysInMonth year 12 := by
  rw [toDays_january (by omega) (Nat.le_refl 1), toDays_march (by omega) (Nat.le_refl 1),
    Int.add_sub_cancel]
  norm_num [beforeMonth, daysInMonth]
  omega

theorem toDays_next {d : Date} (h : d.valid = true) : d.next.toDays = d.toDays + 1 := by
  obtain ⟨year, month, day⟩ := d
  obtain ⟨hmonth, hfirst, hlast⟩ := valid_iff.mp h
  dsimp only at hmonth hfirst hlast
  rw [next]
  dsimp only
  split
  · rw [toDays_eq_first _ _ (by omega), toDays_eq_first _ _ hfirst]
    omega
  split
  · rw [toDays_nextMonth _ (by omega), toDays_eq_first _ _ hfirst]
    omega
  · obtain rfl : month = 12 := by omega
    rw [toDays_nextYear, toDays_eq_first _ _ hfirst]
    omega

/-! ### The order of dates -/

theorem toDays_first_lt (year : Int) {month month' : Nat} (hmonth : 1 ≤ month)
    (h : month < month') (hlast : month' ≤ 12) :
    toDays ⟨year, month, 1⟩ + daysInMonth year month ≤ toDays ⟨year, month', 1⟩ := by
  induction month', h using Nat.le_induction with
  | base => exact (toDays_nextMonth year (by omega)).ge
  | succ later hlater ih =>
    have hlater : 1 ≤ later ∧ later < 12 := by omega
    have hnext := toDays_nextMonth year hlater
    have hstep := ih (by omega)
    omega

/-- The day of a date is no later than the last of its year. -/
theorem toDays_lt_nextYear {d : Date} (h : d.valid = true) :
    d.toDays < yearStart (d.year + 1) := by
  obtain ⟨year, month, day⟩ := d
  obtain ⟨hmonth, hfirst, hlast⟩ := valid_iff.mp h
  dsimp only at hmonth hfirst hlast ⊢
  rw [yearStart, toDays_nextYear, toDays_eq_first _ _ hfirst]
  rcases Nat.lt_or_ge month 12 with hm | hm
  · have hbefore := toDays_first_lt year hmonth.1 hm (Nat.le_refl 12)
    omega
  · obtain rfl : month = 12 := by omega
    omega

theorem yearStart_le_toDays {d : Date} (h : d.valid = true) : yearStart d.year ≤ d.toDays := by
  obtain ⟨year, month, day⟩ := d
  obtain ⟨hmonth, hfirst, hlast⟩ := valid_iff.mp h
  dsimp only at hmonth hfirst hlast ⊢
  rw [yearStart, toDays_eq_first _ _ hfirst]
  rcases Nat.lt_or_ge 1 month with hm | hm
  · have hbefore := toDays_first_lt year (Nat.le_refl 1) hm hmonth.2
    omega
  · obtain rfl : month = 1 := by omega
    omega

theorem yearStart_le_yearStart {year year' : Int} (h : year ≤ year') :
    yearStart year ≤ yearStart year' := by
  have hmarch := elapsed_le_elapsed (Int.sub_le_sub_right h 1)
  rw [yearStart, yearStart, toDays_january (by omega) (Nat.le_refl 1),
    toDays_january (by omega) (Nat.le_refl 1)]
  omega

theorem toDays_lt_of_not_le {a b : Date} (ha : a.valid = true) (hb : b.valid = true)
    (h : ¬b ≤ a) : a.toDays < b.toDays := by
  obtain ⟨hmonth, hfirst, hlast⟩ := valid_iff.mp ha
  obtain ⟨hmonth', hfirst', hlast'⟩ := valid_iff.mp hb
  have hcases : a.year < b.year ∨
      a.year = b.year ∧ (a.month < b.month ∨ a.month = b.month ∧ a.day < b.day) := by
    rw [le_iff] at h
    omega
  rcases hcases with hyear | ⟨hyear, hrest⟩
  · calc a.toDays
      _ < yearStart (a.year + 1) := toDays_lt_nextYear ha
      _ ≤ yearStart b.year := yearStart_le_yearStart hyear
      _ ≤ b.toDays := yearStart_le_toDays hb
  · obtain ⟨year, month, day⟩ := a
    obtain ⟨year', month', day'⟩ := b
    dsimp only at *
    subst hyear
    rw [toDays_eq_first _ _ hfirst, toDays_eq_first _ _ hfirst']
    rcases hrest with hm | ⟨rfl, hd⟩
    · have hbefore := toDays_first_lt year hmonth.1 hm hmonth'.2
      omega
    · omega

theorem le_antisymm {a b : Date} (h : a ≤ b) (h' : b ≤ a) : a = b := by
  obtain ⟨year, month, day⟩ := a
  obtain ⟨year', month', day'⟩ := b
  rw [le_iff] at h h'
  rw [Date.mk.injEq]
  dsimp only at h h'
  omega

/-- Dates are in the order of their days. -/
theorem toDays_le_toDays_iff {a b : Date} (ha : a.valid = true) (hb : b.valid = true) :
    a.toDays ≤ b.toDays ↔ a ≤ b := by
  constructor
  · intro h
    by_contra hnot
    have hlt := toDays_lt_of_not_le hb ha hnot
    omega
  · intro h
    by_contra hnot
    have hle : b ≤ a := by
      by_contra hnle
      have hlt := toDays_lt_of_not_le ha hb hnle
      omega
    rw [le_antisymm h hle] at hnot
    exact hnot (Int.le_refl _)

theorem toDays_inj {a b : Date} (ha : a.valid = true) (hb : b.valid = true)
    (h : a.toDays = b.toDays) : a = b :=
  le_antisymm ((toDays_le_toDays_iff ha hb).mp h.le) ((toDays_le_toDays_iff hb ha).mp h.ge)

/-! ### From days to dates -/

/-- The days since the beginning of a cycle of 400 years, taken apart: whole centuries, spans of
four years, years, and the days since the first of March. The last of them ends a century only at
the end of the cycle. -/
structure CycleParts (days centuries spans years rest : Int) : Prop where
  sum : days = 36524 * centuries + 1461 * spans + 365 * years + rest
  centuries_le : 0 ≤ centuries ∧ centuries ≤ 3
  spans_le : 0 ≤ spans ∧ spans ≤ 24
  years_le : 0 ≤ years ∧ years ≤ 3
  rest_le : 0 ≤ rest ∧ rest ≤ 365
  leap : rest = 365 → years = 3 ∧ (spans = 24 → centuries = 3)

theorem exists_cycleParts {days : Int} (h : 0 ≤ days ∧ days < 146097) :
    ∃ centuries spans years rest, CycleParts days centuries spans years rest := by
  obtain ⟨c, hc⟩ : ∃ c, c = min (days / 36524) 3 := ⟨_, rfl⟩
  obtain ⟨s, hs⟩ : ∃ s, s = (days - 36524 * c) / 1461 := ⟨_, rfl⟩
  obtain ⟨y, hy⟩ : ∃ y, y = min ((days - 36524 * c - 1461 * s) / 365) 3 := ⟨_, rfl⟩
  have hcenturies : 0 ≤ c ∧ c ≤ 3 := by omega
  have hspans : 0 ≤ s ∧ s ≤ 24 := by omega
  refine ⟨c, s, y, days - 36524 * c - 1461 * s - 365 * y, ?_, hcenturies, hspans, ?_, ?_, ?_⟩
  · omega
  · omega
  · omega
  · intro hrest
    constructor <;> omega

namespace CycleParts

variable {days centuries spans years rest : Int}

theorem year_eq (h : CycleParts days centuries spans years rest) :
    (days - days / 1460 + days / 36524 - days / 146096) / 365 =
      100 * centuries + 4 * spans + years := by
  obtain ⟨hsum, hcenturies, hspans, hyears, hrest, hleap⟩ := h
  by_cases hlast : days = 146096
  · omega
  -- Spans of 1460 days drift from spans of four years by at most one over the cycle.
  have hdrift : days / 1460 = 25 * centuries + spans ∨
      days / 1460 = 25 * centuries + spans + 1 := by omega
  have hcentury : days / 36524 = centuries := by omega
  have hnone : days / 146096 = 0 := by omega
  rw [hcentury, hnone]
  rcases hdrift with hdrift | hdrift
  · rw [hdrift]
    omega
  · omega

theorem year_lt (h : CycleParts days centuries spans years rest) :
    0 ≤ 100 * centuries + 4 * spans + years ∧ 100 * centuries + 4 * spans + years < 400 := by
  obtain ⟨-, hcenturies, hspans, hyears, -, -⟩ := h
  omega

theorem rest_eq (h : CycleParts days centuries spans years rest) :
    days - (365 * (100 * centuries + 4 * spans + years) +
        (100 * centuries + 4 * spans + years) / 4 -
        (100 * centuries + 4 * spans + years) / 100) = rest := by
  obtain ⟨hsum, hcenturies, hspans, hyears, -, -⟩ := h
  omega

/-- A year that begins in March has 366 days only where it ends with a leap day. -/
theorem isLeap_next (h : CycleParts days centuries spans years rest) (cycle : Int)
    (hrest : rest = 365) :
    isLeap (100 * centuries + 4 * spans + years + cycle * 400 + 1) = true := by
  obtain ⟨-, hcenturies, hspans, hyears, -, hleap⟩ := h
  obtain ⟨rfl, hcentury⟩ := hleap hrest
  rw [isLeap_iff]
  omega

end CycleParts

/-- The date of a day of a year that begins in March. -/
def ofMarch (year dayOfYear : Int) : Date :=
  let month := (5 * dayOfYear + 2) / 153
  let day := dayOfYear - (153 * month + 2) / 5 + 1
  if month < 10 then ⟨year, (month + 3).toNat, day.toNat⟩
  else ⟨year + 1, (month - 9).toNat, day.toNat⟩

theorem ofMarch_spec {year rest : Int} (h : 0 ≤ rest ∧ rest ≤ 365)
    (hleap : rest = 365 → isLeap (year + 1) = true) :
    (ofMarch year rest).valid = true ∧
      (ofMarch year rest).toDays = elapsed year + rest - 719468 := by
  obtain ⟨month, hmonth⟩ : ∃ month : Nat, (5 * rest + 2) / 153 = month :=
    ⟨((5 * rest + 2) / 153).toNat, by omega⟩
  have hlast : month ≤ 11 := by omega
  have hday : 1 ≤ (rest - (153 * (month : Int) + 2) / 5 + 1).toNat := by omega
  rw [ofMarch, hmonth]
  split
  · have hm : 2 < ((month : Int) + 3).toNat := by omega
    constructor
    · rw [valid_iff]
      refine ⟨by dsimp only; omega, hday, ?_⟩
      dsimp only
      interval_cases month <;> norm_num [daysInMonth] at * <;> omega
    · rw [toDays_march hm hday, beforeMonth]
      omega
  · have hm : ((month : Int) - 9).toNat = month - 9 := by omega
    rw [hm]
    constructor
    · rw [valid_iff]
      refine ⟨by dsimp only; omega, hday, ?_⟩
      dsimp only
      rcases Nat.lt_or_ge month 11 with hjanuary | hfebruary
      · obtain rfl : month = 10 := by omega
        norm_num [daysInMonth]
        omega
      · obtain rfl : month = 11 := by omega
        norm_num [daysInMonth]
        split
        · omega
        · next hshort =>
          have hrest : rest ≠ 365 := fun hrest => hshort (hleap hrest)
          omega
    · rw [toDays_january (by omega) hday, beforeMonth, Int.add_sub_cancel]
      omega

theorem ofDays_spec (days : Int) : (ofDays days).valid = true ∧ (ofDays days).toDays = days := by
  obtain ⟨cycle, hcycle⟩ : ∃ cycle, (days + 719468).fdiv 146097 = cycle := ⟨_, rfl⟩
  have hrange : 0 ≤ days + 719468 - cycle * 146097 ∧
      days + 719468 - cycle * 146097 < 146097 := by
    rw [Int.fdiv_eq_ediv_of_nonneg _ (by decide)] at hcycle
    omega
  obtain ⟨centuries, spans, years, rest, hparts⟩ := exists_cycleParts hrange
  have hdate : ofDays days = ofMarch (100 * centuries + 4 * spans + years + cycle * 400) rest := by
    simp only [ofDays, hcycle, hparts.year_eq, hparts.rest_eq]
    rfl
  obtain ⟨hvalid, hdays⟩ := ofMarch_spec hparts.rest_le (hparts.isLeap_next cycle)
  have hrest := hparts.rest_eq
  rw [hdate, hdays, elapsed_cycle hparts.year_lt]
  refine ⟨hvalid, ?_⟩
  omega

theorem valid_ofDays (days : Int) : (ofDays days).valid = true := (ofDays_spec days).1

theorem toDays_ofDays (days : Int) : (ofDays days).toDays = days := (ofDays_spec days).2

theorem ofDays_toDays {d : Date} (h : d.valid = true) : ofDays d.toDays = d :=
  toDays_inj (valid_ofDays _) h (toDays_ofDays _)

theorem ofDays_le_ofDays_iff {days days' : Int} : ofDays days ≤ ofDays days' ↔ days ≤ days' := by
  rw [← toDays_le_toDays_iff (valid_ofDays _) (valid_ofDays _), toDays_ofDays, toDays_ofDays]

theorem valid_next {d : Date} (h : d.valid = true) : d.next.valid = true := by
  obtain ⟨hmonth, hfirst, hlast⟩ := valid_iff.mp h
  rw [next]
  split
  · exact valid_iff.mpr ⟨hmonth, by dsimp only; omega, by dsimp only; omega⟩
  split
  · exact valid_iff.mpr ⟨by dsimp only; omega, Nat.le_refl 1, daysInMonth_pos _ _⟩
  · exact valid_iff.mpr ⟨by dsimp only; omega, Nat.le_refl 1, daysInMonth_pos _ _⟩

/-- The day after has the date after. -/
theorem next_ofDays (days : Int) : (ofDays days).next = ofDays (days + 1) := by
  refine toDays_inj (valid_next (valid_ofDays days)) (valid_ofDays _) ?_
  rw [toDays_next (valid_ofDays days), toDays_ofDays, toDays_ofDays]

theorem iterate_next_ofDays (n : Nat) (days : Int) :
    next^[n] (ofDays days) = ofDays (days + n) := by
  induction n with
  | zero => simp
  | succ n ih =>
    rw [Function.iterate_succ_apply', ih, next_ofDays, Int.natCast_succ, Int.add_assoc]

/-- A day lies in a year exactly if it is not before its first day nor after its last. -/
theorem year_ofDays_iff {days year : Int} :
    (ofDays days).year = year ↔ yearStart year ≤ days ∧ days < yearStart (year + 1) := by
  have hfirst := yearStart_le_toDays (valid_ofDays days)
  have hlast := toDays_lt_nextYear (valid_ofDays days)
  rw [toDays_ofDays] at hfirst hlast
  constructor
  · rintro rfl
    exact ⟨hfirst, hlast⟩
  · rintro ⟨hbegun, hended⟩
    by_contra hne
    rcases Int.lt_or_gt_of_ne hne with hlt | hgt
    · have hyears : yearStart ((ofDays days).year + 1) ≤ yearStart year :=
        yearStart_le_yearStart hlt
      omega
    · have hyears : yearStart (year + 1) ≤ yearStart (ofDays days).year :=
        yearStart_le_yearStart hgt
      omega

end Date

end RecordWatch
