import RecordWatch.Calendar.Date
import RecordWatch.Double.Decimal
import RecordWatch.Json.Token
import RecordWatch.Text.Scanner
import RecordWatch.Toml
import RecordWatch.Word

/-! Reading TOML documents. Arrays and inline tables nest less than 80 levels deep, and a dotted key
has fewer than 80 parts. -/

namespace RecordWatch

namespace TomlText

open Scanner

/-! ### Blanks, comments and line ends -/

/-- Whether a character is a blank within a line. -/
def isSpace (c : Char) : Bool := c = ' ' || c = '\t'

/-- Whether a character may stand in text: control characters other than the tab may not. -/
def isPlain (c : Char) : Bool := c = '\t' || (' ' ≤ c && c ≠ '\x7f')

/-- Blanks within a line. -/
def spaces : Scanner Unit := do
  let _ ← takeRun isSpace

/-- A line break. -/
def lineBreak : Scanner Unit := do
  if ← accept (· = '\r') then literal ['\n'] else literal ['\n']

/-- A line break or the end of the text. -/
def lineEnd : Scanner Unit := do
  if (← peek).isSome then lineBreak

/-- A comment, which goes to the end of the line. -/
def comment : Scanner Unit := do
  literal ['#']
  let _ ← takeRun isPlain

/-- Blanks and a comment up to the end of the line. -/
def restOfLine : Scanner Unit := do
  spaces
  let _ ← optional? comment
  lineEnd

/-- Blanks, comments and line breaks. -/
def gap : Scanner Unit := do
  spaces
  let _ ← many do
    let _ ← optional? comment
    lineBreak
    spaces

/-! ### Strings -/

/-- The character with the code of exactly `count` hexadecimal digits. -/
def codePoint (count : Nat) : Scanner Char := do
  let digits ← (List.range count).mapM fun _ => expect fun c => (hexadecimalDigit? c).isSome
  let code := digits.foldl (fun n c => n * 16 + (hexadecimalDigit? c).getD 0) 0
  if code.isValidChar then return Char.ofNat code else failure

/-- The character of an escape. -/
def escaped : Scanner Char := do
  literal ['\\']
  match ← expect fun _ => true with
  | 'b' => return '\x08'
  | 't' => return '\t'
  | 'n' => return '\n'
  | 'f' => return '\x0c'
  | 'r' => return '\r'
  | '"' => return '"'
  | '\\' => return '\\'
  | 'u' => codePoint 4
  | 'U' => codePoint 8
  | _ => failure

/-- A character of a string in double quotes. -/
def basicChar : Scanner Char := do
  if (← peek) = some '\\' then escaped else expect fun c => isPlain c && c ≠ '"'

/-- A character of a string in single quotes. -/
def literalChar : Scanner Char := expect fun c => isPlain c && c ≠ '\''

/-- A string on one line between quotes. -/
def lineString (quote : Char) (char : Scanner Char) : Scanner String := do
  literal [quote]
  let cs ← many char
  literal [quote]
  return String.ofList cs

/-- A line break in a string, which counts as a line feed. -/
def lineFeed : Scanner (List Char) := do
  lineBreak
  return ['\n']

/-- A backslash at the end of a line, which drops all blanks up to the next character. -/
def joinedLines : Scanner (List Char) := do
  literal ['\\']
  spaces
  lineBreak
  let _ ← many do if (← peek).any isSpace then let _ ← expect isSpace else lineBreak
  return []

/-- One character as a list. -/
def single (char : Scanner Char) : Scanner (List Char) := return [← char]

/-- The first of two readers that succeeds. -/
def either {α : Type} (first second : Scanner α) : Scanner α := first <|> second

/-- One or two quotes inside a string between three of them. -/
def innerQuotes (quote : Char) : Scanner (List Char) := do
  let cs ← get
  let run := cs.takeWhile (· = quote)
  if run.length = 1 ∨ run.length = 2 then
    set (cs.drop run.length)
    return run
  else failure

/-- The quotes that end a string between three of them; up to two more belong to the string. -/
def closingQuotes (quote : Char) : Scanner (List Char) := do
  let run ← takeRun (· = quote)
  if 3 ≤ run.length ∧ run.length ≤ 5 then return run.drop 3 else failure

/-- A string between three quotes; a line break right after the first ones is dropped. -/
def blockString (quote : Char) (content : Scanner (List Char)) : Scanner String := do
  literal [quote, quote, quote]
  let _ ← optional? lineBreak
  let parts ← many (either (either content lineFeed) (innerQuotes quote))
  let last ← closingQuotes quote
  return String.ofList (parts.flatten ++ last)

/-- A string that may stand for a key. -/
def keyString : Scanner String := do
  if (← peek) = some '"' then lineString '"' basicChar else lineString '\'' literalChar

/-- Whether a text begins with three of a character. -/
def startsBlock (quote : Char) : Scanner Bool := return (← get).take 3 = [quote, quote, quote]

/-- A string. -/
def scanString : Scanner String := do
  if ← startsBlock '"' then blockString '"' (either joinedLines (single basicChar))
  else if ← startsBlock '\'' then blockString '\'' (single literalChar)
  else keyString

/-! ### Numbers -/

/-- Digits, which may be parted by single underscores. -/
def digitRun (digit? : Char → Option Nat) : Scanner (List Nat) := do
  let isDigit (c : Char) : Bool := (digit? c).isSome
  let first ← expect isDigit
  let rest ← many do
    let _ ← accept (· = '_')
    expect isDigit
  return (first :: rest).filterMap digit?

/-- Digits without a zero in front of others. -/
def wholeDigits : Scanner (List Nat) := do
  if (← peek) = some '0' then
    let _ ← expect (· = '0')
    return [0]
  else digitRun decimalDigit?

/-- Whether a minus stands in front; a plus may stand there too. -/
def sign : Scanner Bool := do
  if ← accept (· = '-') then return true
  let _ ← accept (· = '+')
  return false

/-- The number with digits in a base, which has to fit in a signed 64-bit word. -/
def signedWord (base : Nat) (negative : Bool) (digits : List Nat) : Option Int :=
  let value : Int := (digits.foldl (fun n d => n * base + d) 0 : Nat)
  let value := if negative then -value else value
  if fitsSigned64 value then some value else none

/-- The digit a character stands for in a base. -/
def digitBelow? (base : Nat) (c : Char) : Option Nat :=
  (hexadecimalDigit? c).filter (· < base)

/-- An integer in a base, after its mark. -/
def baseInteger (mark : Char) (base : Nat) : Scanner Int := do
  literal ['0', mark]
  StateT.lift (signedWord base false (← digitRun (digitBelow? base)))

/-- An integer. -/
def integer : Scanner Int := do
  match (← get).take 2 with
  | ['0', 'x'] => baseInteger 'x' 16
  | ['0', 'o'] => baseInteger 'o' 8
  | ['0', 'b'] => baseInteger 'b' 2
  | _ =>
    let negative ← sign
    StateT.lift (signedWord 10 negative (← wholeDigits))

/-- The digits after a point, if there is one. -/
def fraction : Scanner (Option (List Nat)) := do
  if ← accept (· = '.') then return some (← digitRun decimalDigit?) else return none

/-- The exponent, if there is one. -/
def exponent : Scanner (Option Int) := do
  if ← accept fun c => c = 'e' || c = 'E' then
    let negative ← sign
    let value : Int := Literal.digitsValue (← digitRun decimalDigit?)
    return some (if negative then -value else value)
  else return none

/-- A float with a fraction or an exponent; a positive one has to be in the range of doubles. -/
def writtenFloat : Scanner Unit := do
  let negative ← sign
  let whole ← wholeDigits
  let fraction ← fraction
  let exponent ← exponent
  if fraction = none ∧ exponent = none then failure
  let literal : Literal := ⟨negative, whole, fraction, exponent⟩
  if negative ∨ literal.toDouble?.isSome then return () else failure

/-- A float that is no number or infinite. -/
def specialFloat : Scanner Unit := do
  let _ ← sign
  either (literal ['i', 'n', 'f']) (literal ['n', 'a', 'n'])

/-! ### Dates and times -/

/-- A date. -/
def date : Scanner Unit := do
  let year ← digits 4
  literal ['-']
  let month ← digits 2
  literal ['-']
  let day ← digits 2
  if Date.valid ⟨year, month, day⟩ then return () else failure

/-- A time of day. -/
def time : Scanner Unit := do
  let _ ← between 0 23 (digits 2)
  literal [':']
  let _ ← between 0 59 (digits 2)
  literal [':']
  let _ ← between 0 60 (digits 2)
  if ← accept (· = '.') then
    if (← takeRun Char.isDigit) = [] then failure

/-- An offset from UTC. -/
def offset : Scanner Unit := do
  if ← accept fun c => c = 'Z' || c = 'z' then return ()
  let _ ← expect fun c => c = '+' || c = '-'
  let _ ← between 0 23 (digits 2)
  literal [':']
  let _ ← between 0 59 (digits 2)

/-- A date with a time or without, or a time. -/
def dateOrTime : Scanner Unit :=
  either
    (do
      date
      let _ ← optional? do
        let _ ← expect fun c => c = 'T' || c = 't' || c = ' '
        time
        let _ ← optional? offset)
    time

/-! ### Values and lines -/

/-- A key without a path. -/
def simpleKey : Scanner String := do
  spaces
  let isBare (c : Char) : Bool := c.isAlphanum || c = '_' || c = '-'
  let key ←
    if (← peek).any fun c => c = '"' || c = '\'' then keyString
    else
      let c ← expect isBare
      pure (String.ofList (c :: (← takeRun isBare)))
  spaces
  return key

/-- A dotted key is shorter than this, and values nest less deeply. -/
def maxDepth : Nat := 80

/-- A key with the path that leads to it. -/
def key : Scanner (List String × String) := do
  let keys ← separated (literal ['.']) simpleKey
  if maxDepth ≤ keys.length then failure
  match keys.reverse with
  | last :: path => return (path.reverse, last)
  | [] => failure

/-- A value that is neither an array nor a table. -/
def scalar : Scanner Toml := do
  match ← peek with
  | some '"' | some '\'' => return .string (← scanString)
  | some 't' =>
    literal ['t', 'r', 'u', 'e']
    return .bool true
  | some 'f' =>
    literal ['f', 'a', 'l', 's', 'e']
    return .bool false
  | _ =>
    either
      (do
        either dateOrTime (either writtenFloat specialFloat)
        return .other)
      (return .integer (← integer))

/-- The pair of a key and a value. -/
def pair (value : Scanner Toml) : Scanner (List String × String × Toml) := do
  let (path, name) ← key
  literal ['=']
  spaces
  return (path, name, ← value)

/-- A value with at most `depth` levels of arrays and tables. -/
def value : Nat → Scanner Toml
  | 0 => scalar
  | depth + 1 => do
    match ← peek with
    | some '[' =>
      literal ['[']
      let items ← separated (literal [',']) do
        gap
        let item ← value depth
        gap
        return item
      if !items.isEmpty then
        let _ ← accept (· = ',')
      gap
      literal [']']
      return .array items
    | some '\x7b' =>
      literal ['\x7b']
      let pairs ← separated (literal [',']) do
        let pair ← pair (value depth)
        spaces
        return pair
      spaces
      literal ['\x7d']
      StateT.lift (TomlTable.ofPairs? pairs)
    | _ => scalar

/-- A line that says something. -/
def line : Scanner TomlLine := do
  match (← get).take 2 with
  | ['[', '['] =>
    literal ['[', '[']
    let (path, name) ← key
    literal [']', ']']
    restOfLine
    return .item path name
  | '[' :: _ =>
    literal ['[']
    let (path, name) ← key
    literal [']']
    restOfLine
    return .header path name
  | _ =>
    let (path, name, value) ← pair (value (maxDepth - 1))
    restOfLine
    return .pair path name value

/-- The lines of a document; those that say nothing are left out. -/
def lines : Scanner (List TomlLine) := do
  spaces
  let lines ← many do
    let line? ←
      match ← peek with
      | some '#' =>
        comment
        lineEnd
        pure none
      | some '\n' | some '\r' =>
        lineBreak
        pure none
      | _ => pure (some (← line))
    spaces
    return line?
  return lines.filterMap id

/-- The lines of a whole text; a byte order mark in front is dropped. -/
def read? (text : String) : Option (List TomlLine) :=
  match text.toList with
  | '\ufeff' :: cs => lines.read? cs
  | cs => lines.read? cs

end TomlText

/-- The fields of the document that a text spells. -/
def TomlDocument.ofText? (text : String) : Option (List (String × Toml)) := do
  TomlDocument.fields? (← TomlText.read? text)

end RecordWatch
