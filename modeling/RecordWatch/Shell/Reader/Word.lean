import RecordWatch.Shell.Reader.Input

/-! Reading words: quotes, parameters and substitutions. Whatever may hold the same thing again is
read through a `Grammar`, which is a level deeper. -/

namespace RecordWatch

namespace Shell

/-- What pieces are read from: a word of a command, the word of a parameter, which may stand between
double quotes, text between double quotes, a document in the script, or an expression. -/
inductive Mode where
  | plain
  | braced (quoted : Bool)
  | double
  | document
  | arithmetic
deriving DecidableEq

namespace Mode

/-- Whether what is read is quoted as a whole. -/
def quoted : Mode → Bool
  | .plain => false
  | .braced quoted => quoted
  | _ => true

end Mode

/-- The readers of a level: pieces up to the end that the mode asks for, the commands of a
substitution, which may be none, and a command. -/
structure Grammar where
  pieces : Mode → Reading (List Piece)
  commands : Reading (List Command)
  command : Reading Command

/-- Pieces read so far and the octets of the last one, each latest first, with the number of
parentheses that are open in an expression. -/
structure Draft where
  octets : List Char
  pieces : List Piece
  depth : Nat

namespace Draft

/-- Nothing read. -/
def empty : Draft := ⟨[], [], 0⟩

/-- The draft with one more octet. -/
def add (draft : Draft) (c : Char) : Draft := { draft with octets := c :: draft.octets }

/-- The draft with its octets made a piece. -/
def close (quoted : Bool) (draft : Draft) : Draft :=
  if draft.octets.isEmpty then draft
  else
    { draft with
      octets := []
      pieces := .text (String.ofList draft.octets.reverse) quoted :: draft.pieces }

/-- The draft with one more piece. -/
def push (quoted : Bool) (draft : Draft) (piece : Piece) : Draft :=
  let draft := draft.close quoted
  { draft with pieces := piece :: draft.pieces }

end Draft

namespace Grammar

/-- The pieces between double quotes, after the first quote. -/
def doubleQuoted (grammar : Grammar) : Reading (List Piece) := do
  let pieces ← grammar.pieces .double
  return if pieces.isEmpty then [.text "" true] else pieces

/-- Whether a backslash between double quotes quotes an octet. -/
def isEscapable (mode : Mode) (c : Char) : Bool :=
  c = '\\' || c = '\x60' || c = '$' || (c = '"' && mode ≠ .document) ||
    (c = '\x7d' && mode = .braced true)

/-- The script between back quotes, after the first one: a backslash quotes itself, a back quote and
a dollar sign, and a double quote between double quotes. -/
def backQuoted (mode : Mode) : Reading String := do go ((← get).rest.length + 1) []
where
  /-- The script, at most `limit` octets of which are still to come, after some octets, latest
  first. -/
  go : Nat → List Char → Reading String
    | 0, _ => Reading.refuse "EOF in backquote substitution"
    | limit + 1, taken => do
      match ← Reading.peek with
      | none => Reading.refuse "EOF in backquote substitution"
      | some '\x60' =>
        Reading.skip
        return String.ofList taken.reverse
      | some '\\' =>
        Reading.skip
        match (← get).rest with
        | [] => Reading.refuse "EOF in backquote substitution"
        | c :: _ =>
          Reading.skip
          if c = '\\' || c = '\x60' || c = '$' || (c = '"' && mode.quoted) then
            go limit (c :: taken)
          else go limit (c :: '\\' :: taken)
      | some c =>
        Reading.skip
        go limit (c :: taken)

/-- A substitution between back quotes, after the first one. -/
def oldSubstitution (grammar : Grammar) (mode : Mode) : Reading Piece := do
  let line := (← get).line
  let text ← backQuoted mode
  let outside ← get
  set ({ Input.ofText text with line } : Input)
  let script ← grammar.commands
  set outside
  return .output script mode.quoted

/-- A substitution between parentheses, after the first one. -/
def substitution (grammar : Grammar) (quoted : Bool) : Reading Piece := do
  let script ← grammar.commands
  Reading.skipBlanks
  match ← Reading.peek with
  | some ')' =>
    Reading.skip
    return .output script quoted
  | _ => Reading.unexpected ")"

/-- Whether a parameter is named by an octet. -/
def isSpecial (c : Char) : Bool :=
  ['#', '?', '$', '!', '-', '*', '@'].contains c || c.isDigit

/-- The operation on a parameter that is read next, and whether an empty parameter counts as
unset. -/
def operation : Reading (Operation × Bool) := do
  let nullCounts := (← Reading.peek) = some ':'
  if nullCounts then Reading.skip
  match ← Reading.peek with
  | some '\x7d' => return (.value, nullCounts)
  | some '-' =>
    Reading.skip
    return (.fallback, nullCounts)
  | some '=' =>
    Reading.skip
    return (.assign, nullCounts)
  | some '?' =>
    Reading.skip
    return (.demand, nullCounts)
  | some '+' =>
    Reading.skip
    return (.alternative, nullCounts)
  | some c =>
    if nullCounts || (c ≠ '#' && c ≠ '%') then return (.invalid, false)
    Reading.skip
    let longest := (← Reading.peek) = some c
    if longest then Reading.skip
    return (if c = '#' then .trimStart longest else .trimEnd longest, false)
  | none => return (.invalid, false)

/-- The name of a parameter between braces. -/
def bracedName? : Reading (Option String) := do
  match ← Reading.peek with
  | none => return none
  | some c =>
    if isNameStart c then return some (← Reading.takeRun isNameChar)
    else if c.isDigit then return some (← Reading.takeRun Char.isDigit)
    else if isSpecial c then
      Reading.skip
      return some (String.singleton c)
    else return none

/-- A parameter between braces, after the first one. -/
def braces (grammar : Grammar) (quoted : Bool) : Reading Piece := do
  let (first, second) ← Reading.peekTwo
  let counted ←
    if first = some '#' then
      match second with
      | some c =>
        if isNameChar c then pure true
        else if c = '\x7d' then pure false
        else
          let inside := { ← get with rest := ((← get).rest.drop 2) : Input }
          pure (isSpecial c && inside.joined.rest.head? = some '\x7d')
      | none => pure false
    else pure false
  if counted then Reading.skip
  let name ← bracedName?
  let (operation, nullCounts) ←
    if name.isNone then pure (Operation.invalid, false)
    else if counted then
      pure (if (← Reading.peek) = some '\x7d' then .length else .invalid, false)
    else operation
  let cut :=
    match operation with
    | .trimStart _ | .trimEnd _ => true
    | _ => false
  let word ← grammar.pieces (.braced (quoted && !cut))
  return .parameter (name.getD "") operation nullCounts word quoted

/-- What a dollar sign begins, which was taken; without anything it stands for itself. -/
def dollar (grammar : Grammar) (mode : Mode) (draft : Draft) : Reading Draft := do
  let quoted := mode.quoted
  match ← Reading.peekTwo with
  | (some '(', some '(') =>
    Reading.skipTwo
    return draft.push quoted (.arithmetic (← grammar.pieces .arithmetic) quoted)
  | (some '(', _) =>
    Reading.skip
    return draft.push quoted (← grammar.substitution quoted)
  | (some '\x7b', _) =>
    Reading.skip
    return draft.push quoted (← grammar.braces quoted)
  | (some c, _) =>
    if isNameStart c then
      let name ← Reading.takeRun isNameChar
      return draft.push quoted (.parameter name .value false [] quoted)
    else if isSpecial c then
      Reading.skip
      return draft.push quoted (.parameter (String.singleton c) .value false [] quoted)
    else return draft.add '$'
  | (none, _) => return draft.add '$'

/-- What a backslash quotes, which was taken. -/
def escape (mode : Mode) (draft : Draft) : Reading Draft := do
  match (← get).rest with
  | [] => return draft.push mode.quoted (.text "\\" true)
  | c :: _ =>
    Reading.skip
    if !mode.quoted || isEscapable mode c then
      return draft.push mode.quoted (.text (String.singleton c) true)
    else return (draft.add '\\').add c

/-- Where pieces end without their end: a word and a document may. -/
def atEnd (mode : Mode) (draft : Draft) : Reading (List Piece) :=
  match mode with
  | .plain | .document => return (draft.close mode.quoted).pieces.reverse
  | .double => Reading.refuse "Unterminated quoted string"
  | .braced _ => Reading.refuse "Missing '\x7d'"
  | .arithmetic => Reading.refuse "Missing '))'"

/-- The draft after a parenthesis in an expression, or nothing at its end. -/
def parenthesis? (c : Char) (draft : Draft) : Reading (Option Draft) := do
  if c = '(' then
    Reading.skip
    return some { draft.add c with depth := draft.depth + 1 }
  else if draft.depth > 0 then
    Reading.skip
    return some { draft.add c with depth := draft.depth - 1 }
  else if (← Reading.peekTwo).2 = some ')' then
    Reading.skipTwo
    return none
  else
    Reading.skip
    return some (draft.add c)

/-- The draft after the next octet, which is `c`, or nothing at the end of the pieces. -/
def step? (grammar : Grammar) (mode : Mode) (c : Char) (draft : Draft) :
    Reading (Option Draft) := do
  if mode = .plain ∧ isDelimiter c then return none
  else if c = '\x7d' ∧ (mode = .braced true ∨ mode = .braced false) then
    Reading.skip
    return none
  else if c = '"' ∧ mode = .double then
    Reading.skip
    return none
  else if (c = '(' ∨ c = ')') ∧ mode = .arithmetic then parenthesis? c draft
  else
    Reading.skip
    if c = '\'' ∧ mode.quoted = false then
      return some (draft.push false (.text (← Reading.takeQuoted '\'') true))
    else if c = '"' ∧ mode.quoted = false then
      let draft := draft.close false
      return some { draft with pieces := (← grammar.doubleQuoted).reverse ++ draft.pieces }
    else if c = '"' ∧ mode = .braced true then
      return some (draft.push true (.text "" true))
    else if c = '\\' then return some (← escape mode draft)
    else if c = '$' then return some (← grammar.dollar mode draft)
    else if c = '\x60' then
      return some (draft.push mode.quoted (← grammar.oldSubstitution mode))
    else return some (draft.add c)

/-- The pieces up to the end that the mode asks for, after a draft of them; at most `limit` octets
are taken one by one. -/
def piecesAfter (grammar : Grammar) (mode : Mode) : Nat → Draft → Reading (List Piece)
  | 0, draft => atEnd mode draft
  | limit + 1, draft => do
    match ← Reading.peek with
    | none => atEnd mode draft
    | some c =>
      match ← grammar.step? mode c draft with
      | none => return (draft.close mode.quoted).pieces.reverse
      | some draft => grammar.piecesAfter mode limit draft

/-- The pieces up to the end that the mode asks for. -/
def readPieces (grammar : Grammar) (mode : Mode) : Reading (List Piece) := do
  grammar.piecesAfter mode ((← get).rest.length + 1) .empty

end Grammar

end Shell

end RecordWatch
