/-! Readers that take a value off the front of a text and leave the rest. -/

namespace RecordWatch

/-- A reader of the front of a text. -/
abbrev Scanner := StateT (List Char) Option

namespace Scanner

variable {α : Type}

/-- The next character, if there is one, which is not taken. -/
def peek : Scanner (Option Char) := return (← get).head?

/-- Whether the next character satisfies `p`; it is taken if it does. -/
def accept (p : Char → Bool) : Scanner Bool := do
  match ← get with
  | c :: rest => if p c then set rest; return true else return false
  | [] => return false

/-- The next character, which has to satisfy `p`. -/
def expect (p : Char → Bool) : Scanner Char := do
  match ← get with
  | c :: rest => if p c then set rest; return c else failure
  | [] => failure

/-- The longest run of characters that satisfy `p`. -/
def takeRun (p : Char → Bool) : Scanner (List Char) := do
  let cs ← get
  set (cs.dropWhile p)
  return cs.takeWhile p

/-- The decimal number of exactly `count` digits. -/
def digits (count : Nat) : Scanner Nat := go count 0
where
  /-- The number of the digits read so far and `count` more. -/
  go : Nat → Nat → Scanner Nat
    | 0, value => return value
    | count + 1, value => do
      let c ← expect Char.isDigit
      go count (value * 10 + (c.toNat - 48))

/-- The given text. -/
def literal : List Char → Scanner Unit
  | [] => return ()
  | c :: rest => do
    let _ ← expect (· = c)
    literal rest

/-- What the reader takes, or nothing if it fails. -/
def optional? (scanner : Scanner α) : Scanner (Option α) := fun cs =>
  match StateT.run scanner cs with
  | some (value, rest) => some (some value, rest)
  | none => some (none, cs)

/-- All that the reader takes, one after the other, until it fails. It has to take at least one
character each time; the text bounds how often that can be. -/
def many (scanner : Scanner α) : Scanner (List α) := fun cs => some (go cs.length cs)
where
  /-- At most `limit` values and the rest. -/
  go : Nat → List Char → List α × List Char
    | 0, cs => ([], cs)
    | limit + 1, cs =>
      match StateT.run scanner cs with
      | some (value, rest) =>
        let (values, rest) := go limit rest
        (value :: values, rest)
      | none => ([], cs)

/-- Values with a separator between each two. -/
def separated (separator : Scanner Unit) (scanner : Scanner α) : Scanner (List α) := do
  match ← optional? scanner with
  | none => return []
  | some first => return first :: (← many (do separator; scanner))

/-- A number that has to lie between two bounds. -/
def between (low high : Nat) (scanner : Scanner Nat) : Scanner Nat := do
  let n ← scanner
  if low ≤ n ∧ n ≤ high then return n else failure

/-- What the reader makes of a whole text. -/
def read? (scanner : Scanner α) (text : List Char) : Option α :=
  match StateT.run scanner text with
  | some (value, []) => some value
  | _ => none

end Scanner

end RecordWatch
