import RecordWatch.Http.Domain
import RecordWatch.Json.Token
import RecordWatch.Text.Digits

/-! Hosts of urls: names, and addresses in numbers. A name whose last part is a number has to be an
address of four bytes; the last number of such an address stands for all bytes that are left. An
address in brackets has eight groups of hexadecimal digits, the last two of which may be written as
four bytes; two colons in a row stand for groups of zeros. -/

namespace RecordWatch

namespace Host

/-- The value of digits in a base, if there is one for each of them. -/
def value? (digit? : Char → Option Nat) (base : Nat) (digits : List Char) : Option Nat :=
  digits.foldlM (fun n c => (digit? c).map fun d => n * base + d) 0

/-- A digit below eight. -/
def octalDigit? (c : Char) : Option Nat := (decimalDigit? c).filter (· < 8)

/-- The number of a part of an address: hexadecimal behind `0x`, octal behind another zero. -/
def number? (part : String) : Option Nat :=
  match part.toList with
  | [] => none
  | '0' :: 'x' :: digits => value? hexadecimalDigit? 16 digits
  | ['0'] => some 0
  | '0' :: digits => value? octalDigit? 8 digits
  | digits => value? decimalDigit? 10 digits

/-- The parts of a name; a dot at its end begins no further part. -/
def parts (name : String) : List String :=
  match (name.splitOn ".").reverse with
  | "" :: rest => rest.reverse
  | rest => rest.reverse

/-- Whether a name has to be an address. -/
def endsInNumber (name : String) : Bool :=
  (parts name).getLast?.any fun part =>
    (decimal? part).isSome || (number? part).isSome

/-- Whether a name is an address: at most four numbers, of which all but the last are bytes and the
last fits in the bytes that are left. -/
def isAddress (name : String) : Bool :=
  match (parts name).mapM number? with
  | none => false
  | some numbers =>
    match numbers.reverse with
    | [] => false
    | last :: before =>
      before.length ≤ 3 && before.all (· < 256) && decide (last < Nat.pow 256 (4 - before.length))

/-- Whether a text is four bytes in decimal digits with dots between them, none of which begins with
a zero. -/
def areBytes (text : String) : Bool :=
  let bytes := text.splitOn "."
  bytes.length = 4 && bytes.all fun byte =>
    (decimal? byte).any (· < 256) && (byte.length = 1 || !byte.startsWith "0")

/-- The number of groups of a text, the last of which may be four bytes if `final`. -/
def groups? (final : Bool) (text : String) : Option Nat :=
  if text = "" then some 0
  else
    let isGroup (group : String) : Bool :=
      0 < group.length && group.length ≤ 4 && group.all fun c => (hexadecimalDigit? c).isSome
    match (text.splitOn ":").reverse with
    | [] => none
    | last :: before =>
      if !before.all isGroup then none
      else if isGroup last then some (before.length + 1)
      else if final && areBytes last then some (before.length + 2)
      else none

/-- Whether a text is an address of eight groups. -/
def isGroupAddress (text : String) : Bool :=
  match text.splitOn "::" with
  | [all] => groups? true all = some 8
  | [before, after] =>
    match groups? false before, groups? true after with
    | some m, some n => m + n ≤ 7
    | _, _ => false
  | _ => false

/-- The host of a text whose percent-encoded bytes are decoded. -/
def ofName? (text : String) : Option String := do
  let name ← Domain.ofText? text
  if name = "" ∨ (endsInNumber name ∧ !isAddress name) then none else return name

/-- The host of an address in brackets. -/
def ofBrackets? (text : String) : Option String :=
  if text.endsWith "]" ∧ isGroupAddress ((text.drop 1).dropEnd 1).toString then some text else none

end Host

end RecordWatch
