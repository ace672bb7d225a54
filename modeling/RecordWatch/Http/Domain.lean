import RecordWatch.Text.Direction
import RecordWatch.Text.Joining
import RecordWatch.Text.PlainForm
import RecordWatch.Text.Punycode
import RecordWatch.Text.Unprintable

/-! Names of hosts in any script. Characters that are only other forms of plain ones count as these,
and some are left out. Then each part of the name is checked: its characters, marks at its start,
joiners and the directions of its characters. A part in Punycode stands for what it decodes to. -/

namespace RecordWatch

namespace Domain

/-! ### Characters -/

/-- The characters that are left out of a name. -/
def ignored : List (Nat × Nat) :=
  [(0xad, 0xad), (0x34f, 0x34f), (0x115f, 0x1160), (0x17b4, 0x17b5), (0x180b, 0x180f),
    (0x200b, 0x200b), (0x2060, 0x2064), (0x206a, 0x206f), (0x3164, 0x3164),
    (0xfe00, 0xfe0f), (0xfeff, 0xfeff), (0xffa0, 0xffa0), (0x1bca0, 0x1bca3),
    (0x1d173, 0x1d17a), (0xe0100, 0xe01ef)]

/-- The characters that are shown but refused, because they stand for more than a name can hold:
dots, blanks with an accent, and signs that describe others. -/
def refused : List (Nat × Nat) :=
  [(0xa8, 0xa8), (0xaf, 0xaf), (0xb4, 0xb4), (0xb8, 0xb8), (0x2d8, 0x2dd), (0x37a, 0x37a),
    (0x384, 0x385), (0x1fbd, 0x1fbd), (0x1fbf, 0x1fc1), (0x1fcd, 0x1fcf), (0x1fdd, 0x1fdf),
    (0x1fed, 0x1fee), (0x1ffd, 0x1ffe), (0x2017, 0x2017), (0x2024, 0x2026), (0x203e, 0x203e),
    (0x2488, 0x249b), (0x2ff0, 0x2fff), (0x309b, 0x309c), (0x31ef, 0x31ef), (0x33c2, 0x33c2),
    (0x33c7, 0x33c7), (0x33d8, 0x33d8), (0xfc5e, 0xfc63), (0xfdfa, 0xfdfb), (0xfe12, 0xfe12),
    (0xfe19, 0xfe19), (0xfe30, 0xfe30), (0xfe49, 0xfe4c), (0xfe52, 0xfe52), (0xfe70, 0xfe70),
    (0xfe72, 0xfe72), (0xfe74, 0xfe74), (0xfe76, 0xfe76), (0xfe78, 0xfe78), (0xfe7a, 0xfe7a),
    (0xfe7c, 0xfe7c), (0xfe7e, 0xfe7e), (0xffe3, 0xffe3), (0xfffc, 0xfffd), (0x1f100, 0x1f100)]

/-- Whether a character outside ASCII can stand in a name. -/
def isAllowed (c : Char) : Bool :=
  !inRanges refused c &&
    (isPrintable c || isMark c || inRanges ignored c || c = Joining.separator ||
      c = Joining.connector)

/-- The characters that a character stands for in a name, unless it is refused. -/
def image? (c : Char) : Option (List Char) :=
  if c ≤ '\x7f' then some [c.toLower]
  else if !isAllowed c then none
  else if inRanges ignored c then some []
  else some ((PlainForm.ofChar? c).getD [c])

/-- Whether a character of ASCII cannot stand in a name. -/
def isForbidden (c : Char) : Bool :=
  c ≤ ' ' || c = '\x7f' ||
    ['#', '/', ':', '<', '>', '?', '@', '[', '\\', ']', '^', '|', '%'].contains c

/-! ### Names -/

/-- The length up to which a part can be written in Punycode. -/
def maxLength : Nat := 1000

/-- The length up to which Punycode is read. -/
def maxPunycode : Nat := 2000

/-- What a part of a name stands for. A part in Punycode stands for composed text with a character
that is not ASCII, in which every character stands for itself. -/
def meaning? (part : List Char) : Option (List Char) :=
  match part with
  | 'x' :: 'n' :: '-' :: '-' :: text => do
    if maxPunycode < text.length then failure
    let characters ← Punycode.decode? text
    if characters.any ('\x7f' < ·) ∧ characters.all (fun c => image? c = some [c]) ∧
        Composition.composed characters = characters then
      return characters
    else none
  | part => if part.any ('\x7f' < ·) ∧ maxLength < part.length then none else some part

/-- Whether the characters of a part go together. -/
def fits (part : List Char) : Bool := !part.head?.any isMark && Joining.fit [] part

/-- Whether a part has text from right to left. -/
def isRightToLeft (part : List Char) : Bool :=
  part.any fun c => Direction.ofChar c = .rtl || Direction.ofChar c = .arabicNumber

/-- The name that a text stands for. -/
def ofText? (text : String) : Option String := do
  let name := String.ofList (Composition.composed (← text.toList.mapM image?).flatten)
  let parts ← (name.splitOn ".").mapM fun part => meaning? part.toList
  if name.any isForbidden || !parts.all fits ||
      (parts.any isRightToLeft && !parts.all Direction.fit) then none
  else return name

end Domain

end RecordWatch
