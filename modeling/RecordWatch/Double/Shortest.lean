import RecordWatch.Double

/-! The shortest decimal that reads back as a given double. For one digit, two digits and so on,
the two neighbours of the value on that decimal grid are tested against the interval of reals that
round to it; the first grid with a hit wins, and of two hits the nearer. -/

namespace RecordWatch

namespace Double

/-- The interval of reals that round to a double, in quarters of the least positive double. -/
structure Interval where
  low : Nat
  value : Nat
  high : Nat
  closed : Bool

/-- The rounding interval; the gap below a power of two is half the gap above it. -/
def interval (x : Double) : Interval :=
  let step := Nat.pow 2 x.power
  let below := if x.significand = normal ∧ 0 < x.power then step else 2 * step
  { low := 4 * x.units - below
    value := 4 * x.units
    high := 4 * x.units + 2 * step
    closed := x.significand % 2 = 0 }

/-- The number of quarter units in one. -/
def quarterUnits : Nat := Nat.pow 2 1076

/-- The power of ten of the first digit of `n / quarterUnits`. -/
def leadingPower (n : Nat) : Int :=
  let guess := ((n.log2 : Int) - 1076) * 30103 / 100000
  let atLeast (e : Int) : Bool :=
    if 0 ≤ e then decide (quarterUnits * Nat.pow 10 e.toNat ≤ n)
    else decide (quarterUnits ≤ n * Nat.pow 10 (-e).toNat)
  if atLeast (guess + 1) then guess + 1 else if atLeast guess then guess else guess - 1

/-- The multiple of ten to the `power` nearest to the value among those in its interval. -/
def onGrid (i : Interval) (power : Int) : Option Nat :=
  let up := Nat.pow 10 (-power).toNat
  let unit := quarterUnits * Nat.pow 10 power.toNat
  let inside (c : Nat) : Bool :=
    if i.closed then decide (i.low * up ≤ c * unit) && decide (c * unit ≤ i.high * up)
    else decide (i.low * up < c * unit) && decide (c * unit < i.high * up)
  let floor := i.value * up / unit
  let lower := inside floor
  let upper := inside (floor + 1)
  if lower && upper then
    let twice := 2 * (i.value * up)
    let middle := (2 * floor + 1) * unit
    if twice < middle then some floor
    else if middle < twice then some (floor + 1)
    else some (floor + floor % 2)
  else if lower then some floor
  else if upper then some (floor + 1)
  else none

/-- A whole number with its trailing zeros moved into the power of ten. -/
def dropZeros (digits : Nat) (power : Int) : Nat × Int :=
  if digits ≠ 0 ∧ digits % 10 = 0 then dropZeros (digits / 10) (power + 1) else (digits, power)
termination_by digits
decreasing_by omega

/-- The digits of the shortest decimal that reads back as `x`, and the power of ten of the last
one. -/
def shortest (x : Double) : Nat × Int :=
  if x.magnitude = 0 then (0, 0)
  else
    let i := x.interval
    let top := leadingPower i.value
    let found := (List.range 17).findSome? fun (n : Nat) =>
      (onGrid i (top - n)).map fun digits => (digits, top - (n : Int))
    let (digits, power) := found.getD (0, 0)
    dropZeros digits power

end Double

end RecordWatch
