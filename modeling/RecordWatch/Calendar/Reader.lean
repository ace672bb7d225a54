import RecordWatch.Calendar.Zone
import RecordWatch.Text.Digits
import RecordWatch.Text.Scanner

/-! Written dates. A text is a date, which may be followed by a time, an offset from UTC and
annotations in brackets. With an offset it is an instant; otherwise it is a wall time of the zone
it is read in, and a date alone is its midnight. -/

namespace RecordWatch

/-- What a written date says about its offset from UTC. -/
inductive WrittenOffset where
  | missing
  | utc
  | ahead (seconds : Int)

/-- The parts of a written date. -/
structure WrittenDate where
  date : Date
  time : Option Int
  offset : WrittenOffset

namespace WrittenDate

open Scanner

/-- A year: four digits, or a sign and six digits; negative zero is refused. -/
def scanYear : Scanner Int := do
  match ← peek with
  | some '+' =>
    let _ ← accept fun _ => true
    between 0 9999 (digits 6)
  | some '-' =>
    let _ ← accept fun _ => true
    let n ← between 1 9999 (digits 6)
    return -n
  | _ => digits 4

/-- A date, its parts all joined by dashes or all joined by nothing. -/
def scanDate : Scanner Date := do
  let year ← scanYear
  let extended ← accept (· = '-')
  let month ← digits 2
  if extended then
    let _ ← expect (· = '-')
  let day ← digits 2
  let date : Date := ⟨year, month, day⟩
  if date.valid then return date else failure

/-- Whether one more part of a time follows: after a colon in the extended form, else at once. -/
def scanPart (extended : Bool) : Scanner Bool := do
  if extended then accept (· = ':')
  else return (← peek).any Char.isDigit

/-- The nanoseconds of a fraction of one to nine digits, if there is one. -/
def scanFraction : Scanner Nat := do
  if ← accept fun c => c = '.' || c = ',' then
    let run ← takeRun Char.isDigit
    if run = [] ∨ 9 < run.length then failure
    else return decimalValue run * Nat.pow 10 (9 - run.length)
  else return 0

/-- A time of day in nanoseconds; a leap second is read as the second before it. -/
def scanTime : Scanner Int := do
  let hour ← between 0 23 (digits 2)
  let extended := (← peek) = some ':'
  if ← scanPart extended then
    let minute ← between 0 59 (digits 2)
    if ← scanPart extended then
      let seconds ← between 0 60 (digits 2)
      let fraction ← scanFraction
      return ((hour * 60 + minute) * 60 + min seconds 59) * second + fraction
    else return (hour * 60 + minute) * 60 * second
  else return hour * 3600 * second

/-- An offset in seconds, `fine` if it may have seconds; a fraction of a half or more rounds it
away from zero. -/
def scanOffset (fine : Bool) : Scanner Int := do
  let sign ← expect fun c => c = '+' || c = '-'
  let hour ← between 0 25 (digits 2)
  let extended := (← peek) = some ':'
  let mut total := hour * 3600
  if ← scanPart extended then
    total := total + (← between 0 59 (digits 2)) * 60
    if fine then
      if ← scanPart extended then
        total := total + (← between 0 59 (digits 2))
        if 500000000 ≤ (← scanFraction) then total := total + 1
  return if sign = '-' then -(total : Int) else total

/-- Runs of characters between separators. -/
def splitAt (separator : Char) : List Char → List (List Char)
  | [] => [[]]
  | c :: rest =>
    match splitAt separator rest with
    | [] => [[c]]
    | piece :: pieces => if c = separator then [] :: piece :: pieces else (c :: piece) :: pieces

/-- Whether a text is a name of a time zone. -/
def isZoneName (text : List Char) : Bool :=
  (splitAt '/' text).all fun
    | [] => false
    | c :: rest =>
      (c.isAlpha || c = '_' || c = '.') &&
        rest.all fun c => c.isAlphanum || c = '_' || c = '.' || c = '+' || c = '-'

/-- Whether a text is a key, an equals sign and a value. -/
def isKeyValue (text : List Char) : Bool :=
  match text.span (· ≠ '=') with
  | (c :: key, '=' :: value) =>
    (c.isLower || c = '_') &&
      key.all (fun c => c.isLower || c.isDigit || c = '_' || c = '-') &&
      (splitAt '-' value).all fun part => part ≠ [] && part.all Char.isAlphanum
  | _ => false

/-- Whether the inside of a bracket is an annotation; only the first may name a time zone, and no
other may be marked critical. -/
def isTag (first : Bool) (text : List Char) : Bool :=
  let (critical, text) :=
    match text with
    | '!' :: rest => (true, rest)
    | text => (false, text)
  (first && (isZoneName text || ((scanOffset false).read? text).isSome)) ||
    (!critical && isKeyValue text)

mutual

/-- The insides of the brackets that make up a whole text. -/
def brackets? : List Char → Option (List (List Char))
  | [] => some []
  | c :: rest => if c = '[' then bracketRest? [] rest else none

/-- The insides of the brackets, the first of which has begun. -/
def bracketRest? (begun : List Char) : List Char → Option (List (List Char))
  | [] => none
  | c :: rest =>
    if c = ']' then (brackets? rest).map (begun.reverse :: ·) else bracketRest? (c :: begun) rest

end

/-- Whether a text is a run of annotations. -/
def areTags (text : List Char) : Bool :=
  match brackets? text with
  | none => false
  | some [] => true
  | some (first :: rest) => isTag true first && rest.all (isTag false)

/-- The date and, after a separator, the time and the offset. -/
def scan : Scanner WrittenDate := do
  let date ← scanDate
  if ← accept fun c => c = 'T' || c = 't' || c = ' ' then
    let time ← scanTime
    match ← peek with
    | some 'Z' | some 'z' =>
      let _ ← accept fun _ => true
      return ⟨date, some time, .utc⟩
    | some '+' | some '-' => return ⟨date, some time, .ahead (← scanOffset true)⟩
    | _ => return ⟨date, some time, .missing⟩
  else return ⟨date, none, .missing⟩

/-- The parts of a whole text. -/
def ofText? (text : String) : Option WrittenDate :=
  match scan.run text.toList with
  | some (written, rest) => if areTags rest then some written else none
  | none => none

/-- The wall time. -/
def wall (d : WrittenDate) : Int := d.date.toDays * day + d.time.getD 0

/-- The greatest number of seconds that an offset may be away from UTC. -/
def maxOffset : Nat := 93599

/-- The instant of a wall time that is some seconds ahead of UTC, if both are in range. -/
def instantAhead? (wall seconds : Int) : Option Instant :=
  if seconds.natAbs ≤ maxOffset then Instant.ofNanoseconds? (wall - seconds * second) else none

/-- The instant, read in `zone` where the offset does not give one; `Z` never stands for a wall
time. -/
def instant? (d : WrittenDate) (zone : Zone) : Option Instant :=
  match d.offset with
  | .missing => zone.instantOf? d.wall
  | .utc => Instant.ofNanoseconds? d.wall
  | .ahead seconds => (instantAhead? d.wall seconds).or (zone.instantOf? d.wall)

end WrittenDate

namespace Instant

/-- The instant that a text stands for in a zone. -/
def ofText? (text : String) (zone : Zone) : Option Instant := do
  (← WrittenDate.ofText? text).instant? zone

end Instant

end RecordWatch
