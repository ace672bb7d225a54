/-! Finite IEEE 754 double-precision numbers as a sign and a magnitude word. The magnitudes order
as natural numbers exactly as the values do, so comparison is integer comparison; a value is a whole
number of the least positive double, so rounding is division of natural numbers. -/

namespace RecordWatch

/-- A finite double; its magnitude is the 64-bit word without the sign bit. -/
structure Double where
  negative : Bool
  magnitude : Nat
  finite : magnitude < 0x7ff0000000000000
deriving DecidableEq

namespace Double

/-- Positive zero. -/
def zero : Double := ⟨false, 0, by decide⟩

/-- The largest finite double. -/
def largest : Double := ⟨false, 0x7fefffffffffffff, by decide⟩

instance : Inhabited Double := ⟨zero⟩

/-- The 64-bit word of the number. -/
def bits (x : Double) : Nat :=
  if x.negative then 0x8000000000000000 + x.magnitude else x.magnitude

/-- The integer whose order is the order of the values; the two zeros share one key. -/
def key (x : Double) : Int :=
  if x.negative then -(x.magnitude : Int) else x.magnitude

/-- Equality of values: the two zeros are equal. -/
def same (x y : Double) : Bool := x.key == y.key

/-- Strict order of values. -/
def less (x y : Double) : Bool := decide (x.key < y.key)

/-- The number with the opposite sign. -/
def neg (x : Double) : Double := { x with negative := !x.negative }

/-- The least magnitude of a normal number; its significand has 53 bits. -/
def normal : Nat := 0x10000000000000

/-- The significand with the implicit bit of a normal number. -/
def significand (x : Double) : Nat :=
  if x.magnitude < normal then x.magnitude else normal + x.magnitude % normal

/-- The power of two of the last significand bit, counted from the least positive double. -/
def power (x : Double) : Nat := x.magnitude / normal - 1

/-- The absolute value counted in units of the least positive double, `2 ^ (-1074)`. -/
def units (x : Double) : Nat := x.significand * Nat.pow 2 x.power

/-- The quotient of two natural numbers rounded to the nearest, a half to the even neighbour. -/
def divRoundEven (n d : Nat) : Nat :=
  let q := n / d
  let r := n % d
  if 2 * r < d then q else if d < 2 * r then q + 1 else q + q % 2

/-- The magnitude nearest to `n / d`, which may lie past the finite range. -/
def roundedMagnitude (n d : Nat) : Nat :=
  let scaled := n * Nat.pow 2 1074
  let floor := scaled / d
  let shift := if floor < 2 * normal then 0 else floor.log2 - 52
  shift * normal + divRoundEven scaled (d * Nat.pow 2 shift)

/-- The double nearest to `n / d`, when it is finite. -/
def ofRatio? (negative : Bool) (n d : Nat) : Option Double :=
  let m := roundedMagnitude n d
  if h : m < 0x7ff0000000000000 then some ⟨negative, m, h⟩ else none

/-- The double nearest to an integer, the largest one beyond the finite range. -/
def ofInt (i : Int) : Double :=
  (ofRatio? (decide (i < 0)) i.natAbs 1).getD largest

/-- The product of two doubles, when it is finite. -/
def mul? (x y : Double) : Option Double :=
  ofRatio? (x.negative != y.negative) (x.units * y.units) (Nat.pow 2 2148)

/-- The quotient of two doubles, when the divisor is not zero and the result is finite. -/
def div? (x y : Double) : Option Double :=
  if y.magnitude = 0 then none else ofRatio? (x.negative != y.negative) x.units y.units

end Double

end RecordWatch
