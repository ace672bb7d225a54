import RecordWatch.Calendar.Instant

/-! Time zones with a fixed offset or with yearly rules for daylight saving time. Wall times are
counted in nanoseconds from 1970-01-01T00:00:00 on the wall. A wall time that the clock skips or
shows twice is read with the offset in force before the change, so a skipped time moves forward by
the gap and a repeated time is the earlier of the two instants. Zones of a database that lists every
change of the clock are not among them. -/

namespace RecordWatch

/-- A day of the year, as rules give it. -/
inductive YearDay where
  | withoutLeapDay (day : Nat)
  | fromZero (day : Nat)
  | weekdayOfMonth (month week weekday : Nat)

namespace YearDay

/-- The day in a year, counted from 1970-01-01, if the year has it. A weekday counts from Sunday as
zero, and the fifth week is the last. -/
def inYear? (year : Int) : YearDay → Option Int
  | .withoutLeapDay day =>
    some (Date.yearStart year + day - 1 + if Date.isLeap year && 60 ≤ day then 1 else 0)
  | .fromZero day =>
    let date := Date.yearStart year + day
    if date < Date.yearStart (year + 1) then some date else none
  | .weekdayOfMonth month week weekday =>
    let first := Date.toDays ⟨year, month, 1⟩
    let wanted : Int := (weekday + 6) % 7
    let offset := (wanted - Date.weekday first) % 7
    let length := Date.daysInMonth year month
    let earliest := first + offset
    if week = 5 then
      some (earliest + 7 * ((first + length - 1 - earliest) / 7))
    else some (earliest + 7 * ((week : Int) - 1))

end YearDay

/-- A change of the clock: a day of the year and the seconds after its midnight on the wall. -/
structure ClockChange where
  day : YearDay
  seconds : Int

namespace ClockChange

/-- The change in a year on a clock that is `offset` seconds behind the wall, kept within the
year. -/
def inYear (change : ClockChange) (year offset : Int) : Int :=
  let first := Date.yearStart year * RecordWatch.day
  let last := Date.yearStart (year + 1) * RecordWatch.day - 1
  match change.day.inYear? year with
  | none => last
  | some date =>
    let time := date * RecordWatch.day + (change.seconds - offset) * second
    if time < first then first else if last < time then last else time

end ClockChange

/-- Daylight saving time: its offset in seconds, and when it begins and ends on the wall. -/
structure Daylight where
  offset : Int
  start : ClockChange
  finish : ClockChange

/-- A time zone; offsets are seconds ahead of UTC. -/
structure Zone where
  standard : Int
  daylight : Option Daylight

namespace Zone

/-- Universal time. -/
def utc : Zone := ⟨0, none⟩

/-- The year of a time counted in nanoseconds. -/
def yearOf (time : Int) : Int := (Date.ofDays (time.fdiv RecordWatch.day)).year

/-- Whether a time lies in the part of the year between two changes, which may span New Year. -/
def within (start finish time : Int) : Bool :=
  if start ≤ finish then decide (start ≤ time ∧ time < finish)
  else !decide (finish ≤ time ∧ time < start)

/-- The offset in force at an instant. Daylight saving time that ends where the next year's begins
is permanent. -/
def offsetAt (zone : Zone) (t : Instant) : Int :=
  match zone.daylight with
  | none => zone.standard
  | some daylight =>
    let year := yearOf t.nanoseconds
    let start := daylight.start.inYear year zone.standard
    let finish := daylight.finish.inYear year daylight.offset
    let permanent := start = Date.yearStart year * RecordWatch.day &&
      yearOf (finish + zone.standard * second) != year
    let finish := if permanent then Date.yearStart (year + 1) * RecordWatch.day - 1 else finish
    if within start finish t.nanoseconds then daylight.offset else zone.standard

/-- The wall time at an instant. -/
def wallTime (zone : Zone) (t : Instant) : Int := t.nanoseconds + zone.offsetAt t * second

/-- The offset a wall time is read with: where two are possible, the one before the change. -/
def offsetOfWall (zone : Zone) (wall : Int) : Int :=
  match zone.daylight with
  | none => zone.standard
  | some daylight =>
    let year := yearOf wall
    let start := daylight.start.inYear year 0
    let finish := daylight.finish.inYear year 0
    let ahead := (daylight.offset - zone.standard) * second
    let inside := within start finish wall
    if ahead = 0 then zone.standard
    else if ahead < 0 then
      if inside then daylight.offset
      else if start + ahead ≤ wall ∧ wall < start then zone.standard
      else if finish ≤ wall ∧ wall < finish - ahead then daylight.offset
      else zone.standard
    else if !inside then zone.standard
    else if start ≤ wall ∧ wall < start + ahead then zone.standard
    else daylight.offset

/-- The instant of a wall time, if it is in range. -/
def instantOf? (zone : Zone) (wall : Int) : Option Instant :=
  Instant.ofNanoseconds? (wall - zone.offsetOfWall wall * second)

end Zone

end RecordWatch
