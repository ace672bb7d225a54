import RecordWatch.Proofs.Calendar.Date
import RecordWatch.Proofs.Comparison.Dates

/-! The week of evaluation. Weeks run from Monday to Sunday and are numbered in the year of their
Thursday, from the one that holds the fourth of January on, so the year and the number are those of
one week only: two dates with the same pair lie between the same Monday and Sunday, also where the
week spans New Year or is the 53rd of its year. -/

namespace RecordWatch

namespace Date

/-- The Monday and the Sunday of the week that holds a date; the fifth of January 1970 was a
Monday. -/
structure WeekOf (date monday sunday : Date) : Prop where
  valid : monday.valid = true
  weeks : (7 : Int) ∣ monday.toDays - toDays ⟨1970, 1, 5⟩
  sixDays : sunday = next^[6] monday
  holds : monday ≤ date ∧ date ≤ sunday

/-! ### Weeks as days -/

theorem weekday_range (days : Int) : 0 ≤ weekday days ∧ weekday days ≤ 6 := by
  unfold weekday
  omega

theorem toDays_monday : toDays ⟨1970, 1, 5⟩ = 4 := rfl

theorem weekday_eq_zero_iff {days : Int} :
    weekday days = 0 ↔ (7 : Int) ∣ days - toDays ⟨1970, 1, 5⟩ := by
  simp only [weekday, toDays_monday]
  omega

/-- A date lies in the week that a Monday begins if its day is one of seven. -/
theorem weekOf_ofDays_iff {days first : Int} {sunday : Date} :
    WeekOf (ofDays days) (ofDays first) sunday ↔
      weekday first = 0 ∧ sunday = ofDays (first + 6) ∧ first ≤ days ∧ days ≤ first + 6 := by
  constructor
  · intro h
    have hweeks := h.weeks
    have hsunday := h.sixDays.trans (iterate_next_ofDays 6 first)
    have hholds := h.holds
    rw [toDays_ofDays, ← weekday_eq_zero_iff] at hweeks
    rw [hsunday, ofDays_le_ofDays_iff, ofDays_le_ofDays_iff] at hholds
    exact ⟨hweeks, hsunday, hholds⟩
  · rintro ⟨hmonday, rfl, hfirst, hlast⟩
    refine ⟨valid_ofDays first, ?_, (iterate_next_ofDays 6 first).symm, ?_⟩
    · rwa [toDays_ofDays, ← weekday_eq_zero_iff]
    · exact ⟨ofDays_le_ofDays_iff.mpr hfirst, ofDays_le_ofDays_iff.mpr hlast⟩

theorem weekOf_monday (days : Int) :
    WeekOf (ofDays days) (ofDays (days - weekday days)) (ofDays (days - weekday days + 6)) := by
  rw [weekOf_ofDays_iff]
  unfold weekday
  refine ⟨?_, rfl, ?_, ?_⟩ <;> omega

theorem WeekOf.unique {days : Int} {monday sunday : Date}
    (h : WeekOf (ofDays days) monday sunday) :
    monday = ofDays (days - weekday days) ∧ sunday = ofDays (days - weekday days + 6) := by
  have hdays := (ofDays_toDays h.valid).symm
  rw [hdays, weekOf_ofDays_iff] at h
  obtain ⟨hmonday, hsunday, hfirst, hlast⟩ := h
  have hfirst : monday.toDays = days - weekday days := by
    unfold weekday at hmonday ⊢
    omega
  rw [hdays, hsunday, hfirst]
  exact ⟨rfl, rfl⟩

/-! ### The numbers of weeks -/

theorem yearStart_next (year : Int) :
    yearStart (year + 1) = yearStart year + if isLeap year then 366 else 365 := by
  have hmarch := elapsed_sub_one year
  rw [yearStart, yearStart, toDays_january (by omega) (Nat.le_refl 1),
    toDays_january (by omega) (Nat.le_refl 1), Int.add_sub_cancel]
  omega

/-- The number of a week counts the Thursdays of the year. -/
theorem week_eq_iff {days year number : Int} : week days = (year, number) ↔
    (yearStart year ≤ days - weekday days + 3 ∧
        days - weekday days + 3 < yearStart (year + 1)) ∧
      number = (days - weekday days + 3 - yearStart year) / 7 + 1 := by
  rw [week, Prod.mk.injEq, ← year_ofDays_iff]
  constructor
  · rintro ⟨rfl, rfl⟩
    exact ⟨rfl, rfl⟩
  · rintro ⟨rfl, rfl⟩
    exact ⟨rfl, rfl⟩

theorem week_fourthOfJanuary (year : Int) : week (toDays ⟨year, 1, 4⟩) = (year, 1) := by
  have hweekday := weekday_range (toDays ⟨year, 1, 4⟩)
  have hyear := yearStart_next year
  have hfourth : toDays ⟨year, 1, 4⟩ = yearStart year + 3 := by
    rw [toDays_eq_first year 1 (by decide), yearStart]
    rfl
  rw [week_eq_iff]
  split at hyear <;> omega

/-- The next week has the next number, or it is the first of the next year. -/
theorem week_next (days : Int) :
    week (days + 7) = ((week days).1, (week days).2 + 1) ∨
      week (days + 7) = ((week days).1 + 1, 1) := by
  obtain ⟨⟨hbegun, hended⟩, hnumber⟩ := week_eq_iff.mp (Prod.eta (week days)).symm
  have hweekday : weekday (days + 7) = weekday days := by
    unfold weekday
    omega
  have hyear := yearStart_next ((week days).1 + 1)
  rw [week_eq_iff, week_eq_iff, hweekday]
  rcases lt_or_ge (days - weekday days + 10) (yearStart ((week days).1 + 1)) with hsame | hnew
  · left
    omega
  · right
    split at hyear <;> omega

theorem week_number_range (days : Int) : 1 ≤ (week days).2 ∧ (week days).2 ≤ 53 := by
  obtain ⟨⟨hbegun, hended⟩, hnumber⟩ := week_eq_iff.mp (Prod.eta (week days)).symm
  have hyear := yearStart_next (week days).1
  split at hyear <;> omega

/-- Days with the same year and number of a week lie between the same Monday and Sunday. -/
theorem week_eq_week_iff {days days' : Int} :
    week days = week days' ↔
      days' - weekday days' ≤ days ∧ days ≤ days' - weekday days' + 6 := by
  have hsame : week days = week days' ↔ days - weekday days = days' - weekday days' := by
    constructor
    · intro h
      obtain ⟨-, hnumber⟩ := week_eq_iff.mp (Prod.eta (week days)).symm
      obtain ⟨-, hnumber'⟩ := week_eq_iff.mp (Prod.eta (week days')).symm
      rw [h] at hnumber
      unfold weekday at *
      omega
    · intro h
      rw [week, week, h]
  rw [hsame]
  unfold weekday
  omega

/-! ### Weeks on the wall -/

/-- The civil date at an instant on a wall whose clock shows these times. -/
def onWall (clock : Instant → Int) (t : Instant) : Date :=
  ofDays ((clock t).fdiv RecordWatch.day)

/-- Whatever the clock shows, so in any time zone: the weeks of two instants have the same year and
number exactly if the date of the one lies between the Monday and the Sunday of the week that holds
the date of the other. That week is the only one. -/
theorem week_onWall (clock : Instant → Int) (t now : Instant) :
    ∃ monday sunday, WeekOf (onWall clock now) monday sunday ∧
      (∀ monday' sunday', WeekOf (onWall clock now) monday' sunday' →
        monday' = monday ∧ sunday' = sunday) ∧
      (week ((clock t).fdiv RecordWatch.day) = week ((clock now).fdiv RecordWatch.day) ↔
        monday ≤ onWall clock t ∧ onWall clock t ≤ sunday) := by
  refine ⟨_, _, weekOf_monday _, fun _ _ hweek => hweek.unique, ?_⟩
  rw [week_eq_week_iff, onWall, ofDays_le_ofDays_iff, ofDays_le_ofDays_iff]

end Date

/-! ### This week -/

/-- The civil date that the clock of a zone shows at an instant. -/
def Zone.dateAt (zone : Zone) (t : Instant) : Date := Date.onWall zone.wallTime t

namespace Comparison

theorem holds_thisWeek {d : String} {now : Moment} {t : Instant}
    (hd : Instant.ofText? d now.zone = some t) (operand : Json) :
    holds ⟨.thisWeek, operand⟩ (.date d) now =
      .ok (weekOf now.zone t == weekOf now.zone now.instant) := by
  simp only [holds, onDate, dateIn_of_some hd, pure_bind]
  rfl

/-- A date that can be read is of this week exactly if it lies between the Monday and the Sunday of
the week that holds the date of evaluation, both dates being those on the wall where it is
evaluated. That week is the only one. -/
theorem exact_week {d : String} {now : Moment} {t : Instant}
    (hd : Instant.ofText? d now.zone = some t) (operand : Json) :
    ∃ monday sunday, Date.WeekOf (now.zone.dateAt now.instant) monday sunday ∧
      (∀ monday' sunday', Date.WeekOf (now.zone.dateAt now.instant) monday' sunday' →
        monday' = monday ∧ sunday' = sunday) ∧
      holds ⟨.thisWeek, operand⟩ (.date d) now =
        .ok (decide (monday ≤ now.zone.dateAt t ∧ now.zone.dateAt t ≤ sunday)) := by
  obtain ⟨monday, sunday, hweek, hunique, hsame⟩ :=
    Date.week_onWall now.zone.wallTime t now.instant
  refine ⟨monday, sunday, hweek, hunique, ?_⟩
  rw [holds_thisWeek hd, Except.ok.injEq, beq_eq_decide, decide_eq_decide]
  exact hsame

/-- New Year's Eve of 2020, five hours behind universal time. -/
def newYearsEve : Moment := ⟨⟨1609416000 * second, by decide, by decide⟩, ⟨-18000, none⟩⟩

theorem weekOf_newYearsEve :
    Date.WeekOf (newYearsEve.zone.dateAt newYearsEve.instant) ⟨2020, 12, 28⟩ ⟨2021, 1, 3⟩ := by
  refine ⟨rfl, ?_, rfl, ?_, ?_⟩ <;> decide +kernel

/-- The 53rd week of 2020 ends in the new year, with the Sunday on the wall: an hour that is already
Monday elsewhere still belongs to it, and midnight does not. -/
theorem exact_week_newYearsEve :
    Date.week ((newYearsEve.zone.wallTime newYearsEve.instant).fdiv day) = (2020, 53) ∧
      holds ⟨.thisWeek, .null⟩ (.date "2021-01-04T03:00:00Z") newYearsEve = .ok true ∧
      holds ⟨.thisWeek, .null⟩ (.date "2021-01-04") newYearsEve = .ok false := by
  have hsunday : Instant.ofText? "2021-01-04T03:00:00Z" newYearsEve.zone =
      some ⟨1609729200 * second, by decide, by decide⟩ := by decide +kernel
  have hmonday : Instant.ofText? "2021-01-04" newYearsEve.zone =
      some ⟨1609736400 * second, by decide, by decide⟩ := by decide +kernel
  refine ⟨by decide +kernel, ?_, ?_⟩
  · obtain ⟨_, _, -, hunique, hverdict⟩ := exact_week hsunday .null
    obtain ⟨rfl, rfl⟩ := hunique _ _ weekOf_newYearsEve
    rw [hverdict, Except.ok.injEq, decide_eq_true_iff]
    constructor <;> decide +kernel
  · obtain ⟨_, _, -, hunique, hverdict⟩ := exact_week hmonday .null
    obtain ⟨rfl, rfl⟩ := hunique _ _ weekOf_newYearsEve
    rw [hverdict, Except.ok.injEq, decide_eq_false_iff_not]
    decide +kernel

end Comparison

end RecordWatch
