import RecordWatch.Calendar.Date

/-! Instants: nanoseconds since 1970 within a fixed range, and their written form. -/

namespace RecordWatch

/-- Nanoseconds of a second. -/
def second : Int := 1000000000

/-- Nanoseconds of a day. -/
def day : Int := 86400 * second

/-- An instant, in nanoseconds since the start of 1970. -/
structure Instant where
  nanoseconds : Int
  least_le : -377705023201 * 1000000000 ≤ nanoseconds
  le_greatest : nanoseconds ≤ 253402207200 * 1000000000 + 999999999
deriving DecidableEq

namespace Instant

/-- The earliest instant. -/
def earliest : Instant := ⟨-377705023201 * 1000000000, by decide, by decide⟩

/-- The latest instant. -/
def latest : Instant := ⟨253402207200 * 1000000000 + 999999999, by decide, by decide⟩

instance : Inhabited Instant := ⟨⟨0, by decide, by decide⟩⟩

/-- The instant of a number of nanoseconds, if it is in range. -/
def ofNanoseconds? (n : Int) : Option Instant :=
  if h : -377705023201 * 1000000000 ≤ n ∧ n ≤ 253402207200 * 1000000000 + 999999999 then
    some ⟨n, h.1, h.2⟩
  else none

/-- The instant a span of nanoseconds later, if it is in range. -/
def add? (t : Instant) (span : Int) : Option Instant := ofNanoseconds? (t.nanoseconds + span)

/-- The instant a span of nanoseconds earlier, if it is in range. -/
def sub? (t : Instant) (span : Int) : Option Instant := ofNanoseconds? (t.nanoseconds - span)

/-- A number with zeros before it up to a width. -/
def padded (width n : Nat) : String :=
  let text := toString n
  String.ofList (List.replicate (width - text.length) '0') ++ text

/-- A fraction of a second without the zeros at its end, nothing when it is zero. -/
def fractionText (nanoseconds : Nat) : String :=
  if nanoseconds = 0 then ""
  else
    let digits := (padded 9 nanoseconds).toList.reverse.dropWhile (· = '0')
    "." ++ String.ofList digits.reverse

/-- The date, time and fraction in UTC, with a six-digit year before the year zero. -/
def text (t : Instant) : String :=
  let days := t.nanoseconds.fdiv day
  let rest := (t.nanoseconds - days * day).toNat
  let date := Date.ofDays days
  let seconds := rest / 1000000000
  let year :=
    if date.year < 0 then "-" ++ padded 6 date.year.natAbs else padded 4 date.year.natAbs
  year ++ "-" ++ padded 2 date.month ++ "-" ++ padded 2 date.day ++ "T" ++
    padded 2 (seconds / 3600) ++ ":" ++ padded 2 (seconds / 60 % 60) ++ ":" ++
    padded 2 (seconds % 60) ++ fractionText (rest % 1000000000) ++ "Z"

end Instant

end RecordWatch
