/-! Numbers written with decimal digits and nothing else. -/

namespace RecordWatch

/-- The number that a run of decimal digits stands for. -/
def decimalValue (digits : List Char) : Nat :=
  digits.foldl (fun n c => n * 10 + (c.toNat - 48)) 0

/-- The number of a text of at least one digit. -/
def decimal? (text : String) : Option Nat :=
  if text ≠ "" ∧ text.all Char.isDigit then some (decimalValue text.toList) else none

end RecordWatch
