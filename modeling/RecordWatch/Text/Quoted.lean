import RecordWatch.Text.Unprintable

/-! Text in quotes, in which every character can be told: quotes, backslashes and the common
controls have short escapes, and other characters that are not shown as themselves are written as
their number in lower-case hexadecimal. -/

namespace RecordWatch

namespace Quoted

/-- The escape of a character, or the character. -/
def escaped (c : Char) : String :=
  if c = '"' then "\\\""
  else if c = '\\' then "\\\\"
  else if c = '\n' then "\\n"
  else if c = '\r' then "\\r"
  else if c = '\t' then "\\t"
  else if c = '\x00' then "\\0"
  else if isPrintable c then String.singleton c
  else "\\u\x7b" ++ String.ofList (Nat.toDigits 16 c.toNat) ++ "\x7d"

/-- A text in quotes. -/
def text (s : String) : String :=
  s.foldl (fun written c => written ++ escaped c) "\"" ++ "\""

/-- A list of texts in brackets. -/
def list (texts : List String) : String :=
  "[" ++ String.intercalate ", " (texts.map text) ++ "]"

end Quoted

end RecordWatch
