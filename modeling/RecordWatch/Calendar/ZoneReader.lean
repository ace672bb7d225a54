import RecordWatch.Calendar.Zone
import RecordWatch.Text.Digits
import RecordWatch.Text.Scanner

/-! Time zone rules in the POSIX form: a name and an offset that counts westward, then, if there is
daylight saving time, its name, its offset and the two yearly changes. -/

namespace RecordWatch

namespace Zone

open Scanner

/-- A name: at least three letters, or any letters, digits and signs between angle brackets. -/
def scanName : Scanner Unit := do
  if ← accept (· = '<') then
    let name ← takeRun fun c => c.isAlphanum || c = '+' || c = '-'
    let _ ← expect (· = '>')
    if name.length < 3 then failure
  else
    let name ← takeRun Char.isAlpha
    if name.length < 3 then failure

/-- A number of at most `count` digits between two bounds. -/
def scanNumber (count low high : Nat) : Scanner Nat := do
  let run ← takeRun Char.isDigit
  let n := decimalValue run
  if run = [] ∨ count < run.length ∨ n < low ∨ high < n then failure else return n

/-- Hours with optional minutes and seconds and an optional sign, in seconds. -/
def scanSpan (hourDigits hours : Nat) : Scanner Int := do
  let negative ← accept (· = '-')
  unless negative do
    let _ ← accept (· = '+')
  let mut total := (← scanNumber hourDigits 0 hours) * 3600
  if ← accept (· = ':') then
    total := total + (← between 0 59 (digits 2)) * 60
    if ← accept (· = ':') then
      total := total + (← between 0 59 (digits 2))
  return if negative then -(total : Int) else total

/-- The day of a change. -/
def scanDay : Scanner YearDay := do
  match ← peek with
  | some 'J' =>
    let _ ← accept fun _ => true
    return .withoutLeapDay (← scanNumber 3 1 365)
  | some 'M' =>
    let _ ← accept fun _ => true
    let month ← scanNumber 2 1 12
    let _ ← expect (· = '.')
    let week ← scanNumber 1 1 5
    let _ ← expect (· = '.')
    return .weekdayOfMonth month week (← scanNumber 1 0 6)
  | _ => return .fromZero (← scanNumber 3 0 365)

/-- A change of the clock, at two o'clock unless a time follows. -/
def scanChange : Scanner ClockChange := do
  let _ ← expect (· = ',')
  let day ← scanDay
  if ← accept (· = '/') then return ⟨day, ← scanSpan 3 167⟩
  else return ⟨day, 7200⟩

/-- A time zone rule. -/
def scan : Scanner Zone := do
  scanName
  let standard := -(← scanSpan 2 24)
  match ← peek with
  | none => return ⟨standard, none⟩
  | some _ =>
    scanName
    let offset ←
      match ← peek with
      | some ',' => pure (standard + 3600)
      | _ => scanOffset
    let start ← scanChange
    return ⟨standard, some ⟨offset, start, ← scanChange⟩⟩
where
  /-- An offset ahead of UTC. -/
  scanOffset : Scanner Int := return -(← scanSpan 2 24)

/-- The time zone of a rule. -/
def ofPosix? (text : String) : Option Zone := scan.read? text.toList

end Zone

end RecordWatch
