/-! Days of the proleptic Gregorian calendar. A day is counted from 1970-01-01; its date is found in
cycles of 400 years that begin in March, so that the leap day comes last. Weeks run from Monday to
Sunday and belong to the year of their Thursday. -/

namespace RecordWatch

/-- A civil date. -/
structure Date where
  year : Int
  month : Nat
  day : Nat
deriving DecidableEq, Inhabited

namespace Date

/-- Whether a year has a leap day. -/
def isLeap (year : Int) : Bool := year % 4 = 0 && (year % 100 != 0 || year % 400 = 0)

/-- The number of days of a month. -/
def daysInMonth (year : Int) (month : Nat) : Nat :=
  if month = 2 then if isLeap year then 29 else 28
  else if month = 4 ∨ month = 6 ∨ month = 9 ∨ month = 11 then 30
  else 31

/-- Whether the month and the day exist. -/
def valid (d : Date) : Bool :=
  decide (1 ≤ d.month ∧ d.month ≤ 12 ∧ 1 ≤ d.day ∧ d.day ≤ daysInMonth d.year d.month)

/-- The number of days from 1970-01-01 to a date. -/
def toDays (d : Date) : Int :=
  let year := if d.month ≤ 2 then d.year - 1 else d.year
  let month := if d.month ≤ 2 then d.month + 9 else d.month - 3
  let cycle := year.fdiv 400
  let yearOfCycle := year - cycle * 400
  let dayOfYear : Int := ((153 * month + 2) / 5 + d.day - 1 : Nat)
  cycle * 146097 + yearOfCycle * 365 + yearOfCycle / 4 - yearOfCycle / 100 + dayOfYear - 719468

/-- The date a number of days after 1970-01-01. -/
def ofDays (days : Int) : Date :=
  let shifted := days + 719468
  let cycle := shifted.fdiv 146097
  let dayOfCycle := shifted - cycle * 146097
  let yearOfCycle :=
    (dayOfCycle - dayOfCycle / 1460 + dayOfCycle / 36524 - dayOfCycle / 146096) / 365
  let dayOfYear := dayOfCycle - (365 * yearOfCycle + yearOfCycle / 4 - yearOfCycle / 100)
  let month := (5 * dayOfYear + 2) / 153
  let day := dayOfYear - (153 * month + 2) / 5 + 1
  let year := yearOfCycle + cycle * 400
  if month < 10 then ⟨year, (month + 3).toNat, day.toNat⟩
  else ⟨year + 1, (month - 9).toNat, day.toNat⟩

/-- The first day of a year. -/
def yearStart (year : Int) : Int := toDays ⟨year, 1, 1⟩

/-- The day of the week, counted from Monday as zero. -/
def weekday (days : Int) : Int := (days + 3) % 7

/-- The year a week belongs to and its number in that year, for the week that holds a day. -/
def week (days : Int) : Int × Int :=
  let thursday := days - weekday days + 3
  let year := (ofDays thursday).year
  (year, (thursday - yearStart year) / 7 + 1)

end Date

end RecordWatch
