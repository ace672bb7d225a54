import RecordWatch.Text.Scanner
import RecordWatch.Text.WordCharacter

/-! The values that a log directive can ask a field for: a number, or a pattern that the text of the
value has to match. Only which texts are values is decided here. A pattern has groups, alternatives,
repetitions and classes of characters; there are neither counted repetitions nor properties of
characters beyond ASCII, nor does the case of letters count for nothing unless only ASCII counts. -/

namespace RecordWatch

namespace LogPattern

/-! ### Numbers -/

/-- Digits with at most one point among them, and maybe an exponent. -/
def decimalNumber : Scanner Unit := do
  let whole ← Scanner.takeRun Char.isDigit
  let pointed ← Scanner.accept (· = '.')
  let places ← if pointed then Scanner.takeRun Char.isDigit else pure []
  if whole.isEmpty && places.isEmpty then failure
  if ← Scanner.accept (fun c => c = 'e' || c = 'E') then
    let _ ← Scanner.accept fun c => c = '+' || c = '-'
    let digits ← Scanner.takeRun Char.isDigit
    if digits.isEmpty then failure

/-- Whether a text behind a sign is a number. -/
def isNumber (text : String) : Bool :=
  ["inf", "infinity", "nan"].contains text.toLower ||
    (Scanner.read? decimalNumber text.toList).isSome

/-! ### Characters -/

/-- How a part of a pattern is read: whether the case of letters counts for nothing, whether only
ASCII counts, and whether blanks and notes are skipped. -/
structure Mode where
  fold : Bool
  ascii : Bool
  spaced : Bool
deriving DecidableEq

/-- The mode in which a pattern begins. -/
def Mode.start : Mode := ⟨false, false, false⟩

/-- Skips what does not count in a mode: blanks, and notes up to the end of their line. -/
def skip (mode : Mode) : Scanner Unit := do
  if mode.spaced then
    let _ ← Scanner.many do
      if ← Scanner.accept (· = '#') then
        let _ ← Scanner.takeRun (· ≠ '\n')
      else
        let _ ← Scanner.expect Char.isWhitespace

/-- What a backslash makes of the characters behind it. -/
inductive Escape where
  /-- A character; one that is given as a byte has to be ASCII where only ASCII counts. -/
  | character (c : Char) (byte : Bool)
  | characterClass
  | place

/-- The value of a hexadecimal digit. -/
def hexDigit? (c : Char) : Option Nat :=
  if c.isDigit then some (c.toNat - 48)
  else if 'a' ≤ c.toLower ∧ c.toLower ≤ 'f' then some (c.toLower.toNat - 87)
  else none

/-- The character of a code in hexadecimal digits. -/
def coded (count : Nat) : Scanner Char := do
  let digits ← (List.replicate count ()).mapM fun _ => Scanner.expect fun c => (hexDigit? c).isSome
  let code := digits.foldl (fun n c => n * 16 + (hexDigit? c).getD 0) 0
  if code < 0xd800 ∨ (0xdfff < code ∧ code < 0x110000) then return Char.ofNat code else failure

/-- Whether a backslash makes nothing of a character but the character itself. -/
def isPlainEscape (c : Char) : Bool := c ≤ '\x7f' && !c.isAlphanum && c ≠ '<' && c ≠ '>'

/-- What a backslash makes of what follows. -/
def escape (mode : Mode) : Scanner Escape := do
  match ← Scanner.expect fun _ => true with
  | 'x' => return .character (← coded 2) true
  | 'u' => return .character (← coded 4) false
  | 'U' => return .character (← coded 8) false
  | 'a' => return .character '\x07' false
  | 'f' => return .character '\x0c' false
  | 't' => return .character '\t' false
  | 'n' => return .character '\n' false
  | 'r' => return .character '\r' false
  | 'v' => return .character '\x0b' false
  | 'A' | 'z' => return .place
  | c =>
    if ['b', 'B', '<', '>'].contains c then
      if mode.ascii then return .place else failure
    else if ['d', 's', 'w'].contains c then
      if mode.ascii then return .characterClass else failure
    else if isPlainEscape c then return .character c false
    else failure

/-- Refuses a character that cannot stand for itself in a mode. -/
def checkCharacter (mode : Mode) (byte : Bool) (c : Char) : Scanner Unit := do
  if mode.fold && !mode.ascii then failure
  if mode.ascii && '\x7f' < c && (mode.fold || byte) then failure

/-! ### Classes of characters -/

/-- A part of a class: a character, or characters that an escape stands for. -/
def classItem (mode : Mode) : Scanner (Option Char) := do
  if ← Scanner.accept (· = '\\') then
    match ← escape mode with
    | .character c _ => return some c
    | .characterClass => return none
    | .place => failure
  else return some (← Scanner.expect fun _ => true)

/-- What follows, blanks and notes left out. -/
def upcoming (mode : Mode) : Scanner (List Char) := do
  let here ← get
  skip mode
  let rest ← get
  set here
  return rest

/-- A character of a class or a range of them, which is not empty. -/
def classRange (mode : Mode) : Scanner Unit := do
  let allowed (item : Option Char) : Bool := item.all fun c => !mode.ascii || c ≤ '\x7f'
  let first ← classItem mode
  if !allowed first then failure
  skip mode
  match ← get with
  | '-' :: rest =>
    set rest
    match (← upcoming mode).head? with
    | some ']' | some '-' => set ('-' :: rest)
    | _ =>
      skip mode
      match first, ← classItem mode with
      | some low, some high => if high < low || !allowed (some high) then failure
      | _, _ => failure
  | _ => pure ()

/-- The names of the classes that ASCII has. -/
def classNames : List String :=
  ["alnum", "alpha", "ascii", "blank", "cntrl", "digit", "graph", "lower", "print", "punct",
    "space", "upper", "word", "xdigit"]

/-- A class by its name, between brackets and colons. -/
def namedClass : Scanner Unit := do
  Scanner.literal ['[', ':']
  let _ ← Scanner.accept (· = '^')
  let name ← Scanner.takeRun Char.isAlpha
  Scanner.literal [':', ']']
  if !classNames.contains (String.ofList name) then failure

/-- The beginning of a class: a bracket, dashes, or another bracket that is no end. A class of all
other characters has more than ASCII. -/
def openClass (mode : Mode) : Scanner Unit := do
  let _ ← Scanner.expect (· = '[')
  skip mode
  if ← Scanner.accept (· = '^') then
    if mode.ascii then failure
  skip mode
  let dashes ← Scanner.many do
    let _ ← Scanner.expect (· = '-')
    skip mode
  if dashes.isEmpty then
    let _ ← Scanner.accept (· = ']')

/-- The rest of a class within `depth` others, in at most `limit` steps. -/
def classRest (mode : Mode) : Nat → Nat → Scanner Unit
  | 0, _ => failure
  | limit + 1, depth => do
    skip mode
    match ← get with
    | ']' :: rest =>
      set rest
      match depth with
      | 0 => return ()
      | depth + 1 => classRest mode limit depth
    | '[' :: _ =>
      match ← Scanner.optional? namedClass with
      | some () => classRest mode limit depth
      | none =>
        openClass mode
        classRest mode limit (depth + 1)
    | '&' :: '&' :: rest | '-' :: '-' :: rest | '~' :: '~' :: rest =>
      set rest
      classRest mode limit depth
    | _ =>
      classRange mode
      classRest mode limit depth

/-- A class of characters. -/
def characterClass (mode : Mode) : Scanner Unit := do
  if mode.fold && !mode.ascii then failure
  openClass mode
  classRest mode ((← get).length + 1) 0

/-! ### Groups -/

/-- The letters of the modes. -/
def modeLetters : List Char := ['i', 'm', 's', 'U', 'u', 'R', 'x']

/-- A mode changed by letters, of which those behind a dash are taken away. -/
def Mode.changed (mode : Mode) (letters : List Char) : Mode :=
  let added := letters.takeWhile (· ≠ '-')
  let removed := letters.dropWhile (· ≠ '-')
  let choose (letter : Char) (before : Bool) : Bool :=
    (before || added.contains letter) && !removed.contains letter
  { fold := choose 'i' mode.fold
    ascii := (mode.ascii || removed.contains 'u') && !added.contains 'u'
    spaced := choose 'x' mode.spaced }

/-- Whether letters can change a mode: each stands there once, and a dash is not the last. -/
def areModeLetters (letters : List Char) : Bool :=
  letters.all (fun c => modeLetters.contains c || c = '-') && letters.getLast? ≠ some '-' &&
    letters.all fun c => letters.count c = 1

/-- A pattern read so far: its mode, those of the groups around, whether what was read last can be
repeated, and the names of the groups. -/
structure Progress where
  mode : Mode
  around : List Mode
  repeatable : Bool
  names : List (List Char)

/-- The beginning of a group, or a change of the mode. -/
def openGroup (p : Progress) : Scanner Progress := do
  let inside := { p with around := p.mode :: p.around, repeatable := false }
  skip p.mode
  match ← get with
  | '?' :: 'P' :: '<' :: rest | '?' :: '<' :: rest =>
    set rest
    let name ← Scanner.takeRun (· ≠ '>')
    Scanner.literal ['>']
    let isFirst (c : Char) : Bool := c = '_' || isWordCharacter c && !c.isDigit
    let isLater (c : Char) : Bool := ['_', '.', '[', ']'].contains c || isWordCharacter c
    if !name.head?.any isFirst || !name.all isLater || p.names.contains name then failure
    return { inside with names := name :: p.names }
  | '?' :: rest =>
    set rest
    let letters ← Scanner.takeRun fun c => c ≠ ':' && c ≠ ')'
    if !areModeLetters letters then failure
    let mode := p.mode.changed letters
    if ← Scanner.accept (· = ':') then return { inside with mode := mode }
    else
      Scanner.literal [')']
      if letters.isEmpty then failure
      return { p with mode := mode, repeatable := false }
  | _ => return inside

/-! ### Patterns -/

/-- One more part of a pattern, whose first character has been taken. -/
def part (p : Progress) (c : Char) : Scanner Progress := do
  let done := { p with repeatable := true }
  if c = '(' then openGroup p
  else if c = ')' then
    match p.around with
    | [] => failure
    | mode :: around => return { done with mode := mode, around := around }
  else if c = '|' then return { p with repeatable := false }
  else if c = '?' || c = '*' || c = '+' then
    if !p.repeatable then failure
    let _ ← Scanner.accept (· = '?')
    return p
  else if c = '\x7b' then failure
  else if c = '.' then if p.mode.ascii then failure else return done
  else if c = '^' || c = '$' then return done
  else if c = '\\' then
    match ← escape p.mode with
    | .character d byte => checkCharacter p.mode byte d
    | .characterClass | .place => pure ()
    return done
  else
    checkCharacter p.mode false c
    return done

/-- The rest of a pattern, in at most `limit` steps. -/
def parts : Nat → Progress → Scanner Unit
  | 0, _ => failure
  | limit + 1, p => do
    skip p.mode
    match ← get with
    | [] => if !p.around.isEmpty then failure
    | '[' :: _ =>
      characterClass p.mode
      parts limit { p with repeatable := true }
    | c :: rest =>
      set rest
      parts limit (← part p c)

/-- Whether a text is a pattern. -/
def isPattern (text : String) : Bool :=
  (Scanner.read? (parts (text.length + 1) ⟨.start, [], false, []⟩) text.toList).isSome

/-- Whether a text is a value that a field can be asked for. Without a sign, a number is a pattern
too. -/
def isValue (text : String) : Bool :=
  isPattern text || (text.startsWith "+" && isNumber (text.drop 1).toString)

end LogPattern

end RecordWatch
