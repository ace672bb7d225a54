import RecordWatch.Double.Decimal
import RecordWatch.Json.Draft

/-! The tokens of JSON text, read in one pass over its characters. A word between blanks and marks
is judged as a whole, so a number has to be one from its first character to its last. -/

namespace RecordWatch

/-- A token of JSON text; a string with half a surrogate pair has no text. -/
inductive Token where
  | openArray
  | closeArray
  | openObject
  | closeObject
  | colon
  | comma
  | text (value : Option String)
  | word (value : Draft)

/-- The digit a character stands for. -/
def decimalDigit? (c : Char) : Option Nat :=
  if '0' ≤ c ∧ c ≤ '9' then some (c.toNat - 48) else none

/-- The hexadecimal digit a character stands for, in either case. -/
def hexadecimalDigit? (c : Char) : Option Nat :=
  if '0' ≤ c ∧ c ≤ '9' then some (c.toNat - 48)
  else if 'a' ≤ c ∧ c ≤ 'f' then some (c.toNat - 87)
  else if 'A' ≤ c ∧ c ≤ 'F' then some (c.toNat - 55)
  else none

/-- The digits at the start of a text, and the rest. -/
def leadingDigits (cs : List Char) : List Nat × List Char :=
  ((cs.takeWhile Char.isDigit).filterMap decimalDigit?, cs.dropWhile Char.isDigit)

namespace Literal

/-- The exponent that a number ends with; it has at least one digit. -/
def exponent? : List Char → Option (Option Int)
  | [] => some none
  | mark :: rest =>
    if mark = 'e' ∨ mark = 'E' then
      let (negative, rest) :=
        match rest with
        | '-' :: rest => (true, rest)
        | '+' :: rest => (false, rest)
        | rest => (false, rest)
      match leadingDigits rest with
      | ([], _) => none
      | (digits, []) =>
        let value : Int := digitsValue digits
        some (some (if negative then -value else value))
      | _ => none
    else none

/-- The literal that a JSON number spells: no leading zeros, no bare point. -/
def ofChars? (cs : List Char) : Option Literal :=
  let (negative, cs) :=
    match cs with
    | '-' :: rest => (true, rest)
    | cs => (false, cs)
  match leadingDigits cs with
  | ([], _) => none
  | (0 :: _ :: _, _) => none
  | (whole, '.' :: rest) =>
    match leadingDigits rest with
    | ([], _) => none
    | (fraction, rest) => (exponent? rest).map fun e => ⟨negative, whole, some fraction, e⟩
  | (whole, rest) => (exponent? rest).map fun e => ⟨negative, whole, none, e⟩

/-- The number of a literal: an integer where it is one, else the double if it is in range. -/
def toNumber? (l : Literal) : Option Number :=
  match l.toInt? with
  | some i => some (.integer i)
  | none => l.toDouble?.map .double

end Literal

namespace Draft

/-- The draft a bare word stands for. -/
def ofWord? (cs : List Char) : Option Draft :=
  if cs = "null".toList then some .null
  else if cs = "true".toList then some (.bool true)
  else if cs = "false".toList then some (.bool false)
  else (Literal.ofChars? cs).map fun literal =>
    match literal.toNumber? with
    | some n => .number n
    | none => .unreadable

end Draft

/-- The characters of a string so far, latest first, with the surrogate that waits for its other
half. -/
structure Spelling where
  chars : List Char
  waiting : Option Nat
  sound : Bool

namespace Spelling

/-- No characters yet. -/
def start : Spelling := ⟨[], none, true⟩

/-- The spelling followed by a character. -/
def push (s : Spelling) (c : Char) : Spelling :=
  { chars := c :: s.chars, waiting := none, sound := s.sound && s.waiting.isNone }

/-- The spelling followed by a 16-bit unit. -/
def pushUnit (s : Spelling) (unit : Nat) : Spelling :=
  if 0xd800 ≤ unit ∧ unit < 0xdc00 then
    { s with waiting := some unit, sound := s.sound && s.waiting.isNone }
  else if 0xdc00 ≤ unit ∧ unit < 0xe000 then
    match s.waiting with
    | some high =>
      { s with
        chars := Char.ofNat (0x10000 + (high - 0xd800) * 0x400 + (unit - 0xdc00)) :: s.chars
        waiting := none }
    | none => { s with sound := false }
  else s.push (Char.ofNat unit)

/-- The text spelled, unless a surrogate stands alone. -/
def text? (s : Spelling) : Option String :=
  if s.sound && s.waiting.isNone then some (String.ofList s.chars.reverse) else none

end Spelling

/-- Where in a token the lexer stands. -/
inductive LexerMode where
  | gap
  | word (chars : List Char)
  | text (spelling : Spelling)
  | escape (spelling : Spelling)
  | unit (spelling : Spelling) (value : Nat) (missing : Nat)

/-- The tokens read so far, latest first, and the one begun. -/
structure Lexer where
  tokens : List Token
  mode : LexerMode

namespace Lexer

/-- The character that a one-letter escape stands for. -/
def escapeOf? (c : Char) : Option Char :=
  match c with
  | '"' => some '"'
  | '\\' => some '\\'
  | '/' => some '/'
  | 'b' => some '\x08'
  | 'f' => some '\x0c'
  | 'n' => some '\n'
  | 'r' => some '\r'
  | 't' => some '\t'
  | _ => none

/-- The token of a punctuation mark. -/
def mark? (c : Char) : Option Token :=
  match c with
  | '[' => some .openArray
  | ']' => some .closeArray
  | '\x7b' => some .openObject
  | '\x7d' => some .closeObject
  | ':' => some .colon
  | ',' => some .comma
  | _ => none

/-- Whether a character may stand between tokens. -/
def isBlank (c : Char) : Bool := c = ' ' || c = '\n' || c = '\t' || c = '\r'

/-- A character outside strings, after the tokens given. -/
def outside (tokens : List Token) (c : Char) : Lexer :=
  if isBlank c then ⟨tokens, .gap⟩
  else if c = '"' then ⟨tokens, .text .start⟩
  else
    match mark? c with
    | some token => ⟨token :: tokens, .gap⟩
    | none => ⟨tokens, .word [c]⟩

/-- One more character. -/
def step (lexer : Lexer) (c : Char) : Option Lexer :=
  match lexer.mode with
  | .gap => some (outside lexer.tokens c)
  | .word chars =>
    if isBlank c || c = '"' || (mark? c).isSome then
      (Draft.ofWord? chars.reverse).map fun draft => outside (.word draft :: lexer.tokens) c
    else some { lexer with mode := .word (c :: chars) }
  | .text spelling =>
    if c = '"' then some ⟨.text spelling.text? :: lexer.tokens, .gap⟩
    else if c = '\\' then some { lexer with mode := .escape spelling }
    else if c.toNat < 32 then none
    else some { lexer with mode := .text (spelling.push c) }
  | .escape spelling =>
    if c = 'u' then some { lexer with mode := .unit spelling 0 3 }
    else (escapeOf? c).map fun c => { lexer with mode := .text (spelling.push c) }
  | .unit spelling value missing =>
    match hexadecimalDigit? c, missing with
    | none, _ => none
    | some d, 0 => some { lexer with mode := .text (spelling.pushUnit (value * 16 + d)) }
    | some d, m + 1 => some { lexer with mode := .unit spelling (value * 16 + d) m }

/-- The tokens, latest first, once the text has ended. -/
def finish (lexer : Lexer) : Option (List Token) :=
  match lexer.mode with
  | .gap => some lexer.tokens
  | .word chars => (Draft.ofWord? chars.reverse).map fun draft => .word draft :: lexer.tokens
  | _ => none

end Lexer

/-- The tokens of a text. -/
def Token.ofText? (text : String) : Option (List Token) := do
  let lexer ← text.toList.foldlM Lexer.step ⟨[], .gap⟩
  return (← lexer.finish).reverse

end RecordWatch
