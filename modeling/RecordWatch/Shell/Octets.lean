import RecordWatch.Text.Lossy

/-! Texts inside a shell. A shell knows bytes and no characters, so its texts are strings of octets:
every byte is kept as the character of its number. -/

namespace RecordWatch

namespace Shell

namespace Octets

/-- The octets of bytes. -/
def ofBytes (bytes : ByteArray) : String :=
  String.ofList (bytes.toList.map fun b => Char.ofNat b.toNat)

/-- The bytes of octets. -/
def toBytes (octets : String) : ByteArray :=
  ⟨(octets.toList.map fun c => c.toNat.toUInt8).toArray⟩

/-- The octets of a text in UTF-8. -/
def ofText (text : String) : String := ofBytes text.toUTF8

/-- The text of octets, as far as they are UTF-8. -/
def toText (octets : String) : String := Lossy.decode (toBytes octets).toList

/-- The octets of some lines, each with its end. -/
def ofLines (lines : List String) : String := String.join (lines.map (· ++ "\n"))

/-- The lines of octets with their ends, which the last one may lack. -/
def fullLines (octets : String) : List String :=
  let parts := octets.splitOn "\n"
  let ended := parts.dropLast.map (· ++ "\n")
  match parts.getLast? with
  | some "" | none => ended
  | some last => ended ++ [last]

/-- The lines of octets without their ends. -/
def lines (octets : String) : List String :=
  let parts := octets.splitOn "\n"
  if parts.getLast? = some "" then parts.dropLast else parts

end Octets

/-- Whether an octet may begin the name of a variable. -/
def isNameStart (c : Char) : Bool := c.isAlpha || c = '_'

/-- Whether an octet may stand in the name of a variable. -/
def isNameChar (c : Char) : Bool := c.isAlphanum || c = '_'

/-- Whether a text is the name of a variable. -/
def isName (text : String) : Bool :=
  text.all isNameChar && (text.toList.head?.map isNameStart).getD false

/-- Whether an octet is white space in the sense of numbers. -/
def isSpace (c : Char) : Bool := c = ' ' || ('\t' ≤ c && c ≤ '\x0d')

end Shell

end RecordWatch
