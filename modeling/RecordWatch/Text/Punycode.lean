/-! Punycode: a name whose characters need not be ASCII, written in ASCII. The ASCII characters come
first; behind the last dash the others follow in the order of their code points. Each is given by
how many steps lie between the insertion of the one before and its own, where every step is a place
in the name and every round of places is the next code point. The number of steps is written in
digits of base 36, least significant first; a digit below its threshold is the last one. -/

namespace RecordWatch

namespace Punycode

/-- The value of a digit: letters first. -/
def digit? (c : Char) : Option Nat :=
  if 'a' ≤ c ∧ c ≤ 'z' then some (c.toNat - 97)
  else if c.isDigit then some (c.toNat - 48 + 26)
  else none

/-- The threshold of the digit at a position, which counts in steps of 36. -/
def threshold (position bias : Nat) : Nat := max 1 (min 26 (position - bias))

/-- How often a delta can be divided by 35 before it is small, in steps of 36, and what is left. -/
def reduce (delta steps : Nat) : Nat × Nat :=
  if 455 < delta then reduce (delta / 35) (steps + 36) else (steps, delta)
termination_by delta
decreasing_by exact Nat.div_lt_self (by omega) (by omega)

/-- The bias after a delta that led to a name of `length` characters. -/
def adapted (delta length : Nat) (first : Bool) : Nat :=
  let delta := if first then delta / 700 else delta / 2
  let (steps, delta) := reduce (delta + delta / length) 0
  steps + 36 * delta / (delta + 38)

/-- A name read so far, and the delta that is being read. -/
structure Decoder where
  characters : List Char
  code : Nat
  bias : Nat
  /-- The place reached before this delta and the one reached with its digits so far. -/
  before : Nat
  place : Nat
  /-- The weight and the position of the next digit. -/
  weight : Nat
  position : Nat

namespace Decoder

/-- The decoder behind the ASCII characters of a name. -/
def start (characters : List Char) : Decoder := ⟨characters, 128, 72, 0, 0, 1, 36⟩

/-- The decoder once its delta is complete. -/
def insert? (d : Decoder) : Option Decoder :=
  let length := d.characters.length + 1
  let code := d.code + d.place / length
  let index := d.place % length
  if code < 0xd800 ∨ (0xdfff < code ∧ code < 0x110000) then
    some {
      characters := d.characters.take index ++ Char.ofNat code :: d.characters.drop index
      code := code
      bias := adapted (d.place - d.before) length (d.before = 0)
      before := index + 1
      place := index + 1
      weight := 1
      position := 36 }
  else none

/-- The decoder after one more digit. -/
def step? (d : Decoder) (c : Char) : Option Decoder := do
  let digit ← digit? c
  let bound := threshold d.position d.bias
  let d := { d with place := d.place + digit * d.weight }
  if digit < bound then d.insert?
  else return { d with weight := d.weight * (36 - bound), position := d.position + 36 }

end Decoder

/-- The name of a text in Punycode. Its last dash cannot be its first character. -/
def decode? (text : List Char) : Option (List Char) := do
  let (digits, before) := text.reverse.span (· ≠ '-')
  if before.length = 1 then failure
  let decoder ← digits.reverse.foldlM Decoder.step? (Decoder.start (before.drop 1).reverse)
  if decoder.weight = 1 then return decoder.characters else none

end Punycode

end RecordWatch
