import RecordWatch.Double.Shortest
import RecordWatch.Json

/-! The two texts of a JSON value: compact, without any space, and pretty, with one item a line and
two spaces of indentation. Doubles have the fewest digits that read back. -/

namespace RecordWatch

namespace Json

/-- The hexadecimal digit of a number below sixteen, in lower case. -/
def hexDigit (n : Nat) : Char :=
  if n < 10 then Char.ofNat (48 + n) else Char.ofNat (87 + n)

/-- The written form of one character of a string. -/
def escaped (c : Char) : String :=
  if c = '"' then "\\\""
  else if c = '\\' then "\\\\"
  else if c = '\n' then "\\n"
  else if c = '\r' then "\\r"
  else if c = '\t' then "\\t"
  else if c = '\x08' then "\\b"
  else if c = '\x0c' then "\\f"
  else if c.toNat < 32 then
    "\\u00" ++ String.ofList [hexDigit (c.toNat / 16), hexDigit (c.toNat % 16)]
  else String.singleton c

/-- A string in quotes. -/
def quoted (s : String) : String :=
  s.foldl (fun text c => text ++ escaped c) "\"" ++ "\""

end Json

namespace Number

/-- The least power of ten of the first digit that is written positionally. -/
def leastPositional : Int := -5

/-- The greatest power of ten of the first digit that is written positionally. -/
def greatestPositional : Int := 15

/-- A run of zeros. -/
def zeros (count : Nat) : String := String.ofList (List.replicate count '0')

/-- Digits with a point before all but the first `whole` of them. -/
def pointed (digits : String) (whole : Nat) : String :=
  String.ofList (digits.toList.take whole) ++ "." ++ String.ofList (digits.toList.drop whole)

/-- The decimal text of nonzero `digits` whose last one counts ten to the `power`. -/
def decimalText (digits : Nat) (power : Int) : String :=
  let text := toString digits
  let first := power + text.length - 1
  if leastPositional ≤ first ∧ first ≤ greatestPositional then
    if 0 ≤ power then text ++ zeros power.toNat ++ ".0"
    else if 0 ≤ first then pointed text (first.toNat + 1)
    else "0." ++ zeros (-first - 1).toNat ++ text
  else
    let mantissa := if text.length = 1 then text else pointed text 1
    mantissa ++ "e" ++ (if 0 ≤ first then "+" else "-") ++ toString first.natAbs

/-- The text of a double: its shortest decimal, with `.0` after a whole number. -/
def doubleText (x : Double) : String :=
  let unsigned :=
    if x.magnitude = 0 then "0.0"
    else
      let (digits, power) := x.shortest
      decimalText digits power
  if x.negative then "-" ++ unsigned else unsigned

/-- The text of a number. -/
def text : Number → String
  | .integer i => toString i
  | .double x => doubleText x

end Number

namespace Json

mutual

/-- The text of a value without spaces. -/
def compact : Json → String
  | .null => "null"
  | .bool true => "true"
  | .bool false => "false"
  | .number n => n.text
  | .string s => quoted s
  | .array items => "[" ++ compactItems items ++ "]"
  | .object fields => "\x7b" ++ compactFields fields ++ "\x7d"

/-- The items of an array with commas between them. -/
def compactItems : List Json → String
  | [] => ""
  | [item] => compact item
  | item :: next :: rest => compact item ++ "," ++ compactItems (next :: rest)

/-- The fields of an object with commas between them. -/
def compactFields : List (String × Json) → String
  | [] => ""
  | [(name, value)] => quoted name ++ ":" ++ compact value
  | (name, value) :: next :: rest =>
    quoted name ++ ":" ++ compact value ++ "," ++ compactFields (next :: rest)

end

/-- The start of a line at a depth of nesting. -/
def newline (depth : Nat) : String := "\n" ++ String.ofList (List.replicate (2 * depth) ' ')

mutual

/-- The text of a value at a depth of nesting, one item or field a line. -/
def prettyAt (depth : Nat) : Json → String
  | .null => "null"
  | .bool true => "true"
  | .bool false => "false"
  | .number n => n.text
  | .string s => quoted s
  | .array [] => "[]"
  | .array (item :: rest) =>
    "[" ++ prettyItems (depth + 1) (item :: rest) ++ newline depth ++ "]"
  | .object [] => "\x7b\x7d"
  | .object (field :: rest) =>
    "\x7b" ++ prettyFields (depth + 1) (field :: rest) ++ newline depth ++ "\x7d"

/-- The items of an array, each on a line. -/
def prettyItems (depth : Nat) : List Json → String
  | [] => ""
  | [item] => newline depth ++ prettyAt depth item
  | item :: next :: rest =>
    newline depth ++ prettyAt depth item ++ "," ++ prettyItems depth (next :: rest)

/-- The fields of an object, each on a line. -/
def prettyFields (depth : Nat) : List (String × Json) → String
  | [] => ""
  | [(name, value)] => newline depth ++ quoted name ++ ": " ++ prettyAt depth value
  | (name, value) :: next :: rest =>
    newline depth ++ quoted name ++ ": " ++ prettyAt depth value ++ "," ++
      prettyFields depth (next :: rest)

end

/-- The text of a value, one item or field a line. -/
def pretty (value : Json) : String := prettyAt 0 value

end Json

end RecordWatch
