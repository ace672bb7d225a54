import RecordWatch.Double
import RecordWatch.Word

/-! Decimal literals as doubles. A literal keeps as many leading digits as fit in 64 bits, converts
them to a double, and scales that double by one power of ten at a time; the result can differ from
the nearest double in its last bit, and callers rely on exactly this result. -/

namespace RecordWatch

namespace Double

/-- The double nearest to a power of ten up to 308. -/
def tenTo (n : Nat) : Double := ofInt (Nat.pow 10 n)

/-- `x` times ten to the `exponent`; a power beyond 308 is taken in steps, and a result past the
finite range is none. -/
def scale (x : Double) (exponent : Int) : Option Double :=
  if exponent.natAbs ≤ 308 then
    if 0 ≤ exponent then x.mul? (tenTo exponent.natAbs) else x.div? (tenTo exponent.natAbs)
  else if x.magnitude = 0 then some x
  else if 0 ≤ exponent then none
  else (x.div? (tenTo 308)).bind fun y => y.scale (exponent + 308)
termination_by exponent.natAbs
decreasing_by omega

end Double

/-- A decimal literal, its digits given as numbers below ten. -/
structure Literal where
  negative : Bool
  whole : List Nat
  fraction : Option (List Nat)
  exponent : Option Int

namespace Literal

/-- The significand followed by one more digit, while it fits in 64 bits. -/
def append? (significand digit : Nat) : Option Nat :=
  let next := significand * 10 + digit
  if fitsUnsigned64 next then some next else none

/-- The significand of the whole digits, and how many of them did not fit. -/
def takeWhole (significand : Nat) : List Nat → Nat × Nat
  | [] => (significand, 0)
  | d :: ds =>
    match append? significand d with
    | some next => takeWhole next ds
    | none => (significand, ds.length + 1)

/-- The significand extended by the fraction digits that fit, and how many did. -/
def takeFraction (significand : Nat) : List Nat → Nat × Nat
  | [] => (significand, 0)
  | d :: ds =>
    match append? significand d with
    | some next =>
      let (final, count) := takeFraction next ds
      (final, count + 1)
    | none => (significand, 0)

/-- The value of a run of digits. -/
def digitsValue (digits : List Nat) : Nat := digits.foldl (fun n d => n * 10 + d) 0

/-- The double a literal stands for, when it is in range. -/
def toDouble? (l : Literal) : Option Double :=
  let (significand, dropped) := takeWhole 0 l.whole
  let (significand, kept) := takeFraction significand (l.fraction.getD [])
  let scaled := (Double.ofInt significand).scale ((dropped : Int) - kept + l.exponent.getD 0)
  if l.negative then scaled.map Double.neg else scaled

/-- The integer a literal stands for: it has neither fraction nor exponent and fits in a signed or
unsigned 64-bit word. Negative zero is not an integer. -/
def toInt? (l : Literal) : Option Int :=
  if l.fraction.isSome || l.exponent.isSome then none
  else
    let n := digitsValue l.whole
    if l.negative then
      if 0 < n && fitsSigned64 (-(n : Int)) then some (-(n : Int)) else none
    else if fitsUnsigned64 n then some n
    else none

end Literal

end RecordWatch
