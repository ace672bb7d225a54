import RecordWatch.Shell.Arithmetic
import RecordWatch.Shell.Pattern
import RecordWatch.Shell.Runner

/-! What words come to: their parameters and substitutions are replaced, the result is split at the
separators, and patterns give way to the paths that they match. -/

namespace RecordWatch

namespace Shell

/-- The value of a parameter. -/
inductive ParameterValue where
  | unset
  | single (text : String)
  | several (texts : List String)

namespace Process

/-- The value of a parameter. -/
def parameter (p : Process) (name : String) : ParameterValue :=
  match decimal? name with
  | some 0 => .single p.name
  | some n => (p.arguments[n - 1]?).elim .unset .single
  | none =>
    match name with
    | "#" => .single (toString p.arguments.length)
    | "?" => .single (toString p.status)
    | "$" => .single (toString p.shell)
    | "!" => p.lastJob.elim .unset fun id => .single (toString id)
    | "-" => .single (String.ofList p.options)
    | "@" | "*" => .several p.arguments
    | name => (p.value? name).elim .unset .single

/-- What stands between joined arguments. -/
def joint (p : Process) : String := (p.separators.take 1).toString

end Process

namespace ParameterValue

/-- The value as one text. -/
def joined (joint : String) : ParameterValue → String
  | .unset => ""
  | .single text => text
  | .several texts => String.intercalate joint texts

/-- Whether the value counts as unset, as an empty one may. -/
def isUnset (nullCounts : Bool) : ParameterValue → Bool
  | .unset => true
  | .single text => nullCounts && text = ""
  | .several texts => nullCounts && (texts = [] || texts = [""])

end ParameterValue

namespace Glyph

/-- The glyphs of a text that was written as it is. -/
def written (text : String) (quoted : Bool) : List Glyph :=
  (if quoted then [.quote] else []) ++ text.toList.map fun c => .octet c quoted false

/-- The glyphs of a text that came out of a substitution. -/
def result (text : String) (quoted : Bool) : List Glyph :=
  (if quoted then [.quote] else []) ++ text.toList.map fun c => .octet c quoted (!quoted)

/-- The octets of glyphs, with those that are quoted marked. -/
def marked (glyphs : List Glyph) : List Marked :=
  glyphs.filterMap fun
    | .octet c quoted _ => some ⟨c, quoted⟩
    | .quote => none
    | .gap => some ⟨' ', false⟩

/-- The text of glyphs. -/
def text (glyphs : List Glyph) : String := Marked.text (marked glyphs)

end Glyph

/-! ### Splitting into fields -/

/-- Fields read so far, latest first, the one that is open, and whether white space has just ended a
field. -/
structure Fielding where
  done : List (List Marked)
  current : Option (List Marked)
  afterBlank : Bool

namespace Fielding

/-- The fields with the open one closed. -/
def close (f : Fielding) : Fielding :=
  { f with done := (f.current.map List.reverse).toList ++ f.done, current := none }

/-- The fields after a glyph. -/
def step (separators : String) (f : Fielding) : Glyph → Fielding
  | .gap => { f.close with afterBlank := false }
  | .quote => { f with current := some (f.current.getD []), afterBlank := false }
  | .octet c quoted splits =>
    if splits && separators.contains c then
      if isSpace c then
        if f.current.isSome then { f.close with afterBlank := true } else f
      else if f.current.isNone && f.afterBlank then { f with afterBlank := false }
      else { { f with current := some (f.current.getD []) }.close with afterBlank := false }
    else
      { f with
        current := some (⟨c, quoted⟩ :: f.current.getD [])
        afterBlank := false }

/-- The fields of glyphs. -/
def fields (separators : String) (glyphs : List Glyph) : List (List Marked) :=
  (glyphs.foldl (step separators) ⟨[], none, false⟩).close.done.reverse

end Fielding

/-! ### Paths that match a pattern -/

/-- The parts of a path between slashes. -/
def pathParts (octets : List Marked) : List (List Marked) :=
  octets.foldr (fun m parts =>
    if m.octet = '/' then [] :: parts
    else
      match parts with
      | part :: rest => (m :: part) :: rest
      | [] => [[m]]) [[]]

namespace Process

/-- The paths that match parts of a pattern, below a path that was matched so far. -/
def matching (p : Process) (base : String) : List (List Marked) → List String
  | [] => [base]
  | part :: rest =>
    let name := Marked.text part
    if name = "" then
      if rest.isEmpty then
        if ((p.nodeAt base).toOption.map Node.isDirectory).getD false then [base] else []
      else p.matching (base ++ "/") rest
    else
      let step (name : String) : List String :=
        let path := base ++ name
        if rest.isEmpty then (if (p.nodeAt path).toBool then [path] else [])
        else p.matching (path ++ "/") rest
      if Glob.isPattern part then
        let globs := Glob.ofMarked part
        let place := (p.find (if base = "" then "." else base)).toOption.map fun found => found.1
        let names := (place.map p.entries).getD []
        let shown := names.filter fun other =>
          (!other.startsWith "." || part.head?.any fun m => m.octet = '.') &&
            Glob.isMatch globs other.toList
        (shown.mergeSort (fun a b => decide (a ≤ b))).flatMap step
      else step name

/-- The fields that a field comes to where it is a pattern. -/
def globbed (p : Process) (field : List Marked) : List String :=
  if p.isSet 'f' || !Glob.isPattern field then [Marked.text field]
  else
    match p.matching "" (pathParts field) with
    | [] => [Marked.text field]
    | paths => paths

end Process

/-! ### Expansion -/

namespace Expansion

open Process

/-- The home directory that a word begins with the name of. -/
def home? (p : Process) (user : String) : Option String :=
  if user = "" then p.value? "HOME"
  else if user = "root" then some "/root" else none

/-- A text with a tilde at its start replaced: the home directory and the rest. A name that may go
on after the text is left alone. -/
def homeAndRest? (p : Process) (goesOn : Bool) (text : List Char) : Option (String × String) :=
  match text with
  | '~' :: after =>
    let left := after.dropWhile (· ≠ '/')
    if left.isEmpty && goesOn then none
    else
      (home? p (String.ofList (after.takeWhile (· ≠ '/')))).map fun home =>
        (home, String.ofList left)
  | _ => none

/-- The pieces of a word with a tilde at its start replaced. -/
def tildeExpanded (p : Process) (pieces : List Piece) : List Piece :=
  match pieces with
  | .text text false :: rest =>
    match homeAndRest? p (!rest.isEmpty) text.toList with
    | some (home, left) => .text home true :: .text left false :: rest
    | none => pieces
  | _ => pieces

/-- The pieces of the value of an assignment with tildes replaced at its start and after colons. -/
def tildesExpanded (p : Process) (pieces : List Piece) : List Piece :=
  match pieces with
  | .text text false :: rest =>
    let parts := text.splitOn ":"
    let expanded := parts.zipIdx.map fun (part, i) =>
      let goesOn := i + 1 = parts.length && !rest.isEmpty
      (homeAndRest? p goesOn part.toList).elim part fun (home, left) => home ++ left
    .text (String.intercalate ":" expanded) false :: rest
  | _ => pieces

/-- The text that pieces come to where it is not split. -/
def textOf (runner : Runner) (pieces : List Piece) : Step String := do
  return Glyph.text (← runner.expand false (tildeExpanded (← get) pieces))

/-- The glyphs of the value of a parameter. -/
def valueGlyphs (p : Process) (full : Bool) (name : String) (quoted : Bool) :
    ParameterValue → List Glyph
  | .unset => Glyph.result "" quoted
  | .single text => Glyph.result text quoted
  | .several texts =>
    if full && !(quoted && name = "*") then
      (texts.map fun text => Glyph.result text quoted).intersperse [.gap] |>.flatten
    else Glyph.result (String.intercalate p.joint texts) quoted

/-- The value of an expression, whose text is given; what it assigns is assigned. -/
def calculate (text : String) : Step String := do
  let refuse {α : Type} (why : String) : Step α :=
    fail ("arithmetic expression: " ++ why ++ ": \"" ++ text ++ "\"")
  match Expression.ofText? text with
  | .error why => refuse why
  | .ok expression =>
    let p ← get
    let lookup (name : String) : String := (p.parameter name).joined " "
    match (expression.value lookup).run [] with
    | .error .division => refuse "division by zero"
    | .error (.notNumber text) => fail ("Illegal number: " ++ text)
    | .ok (value, assigned) =>
      assigned.reverse.forM fun (name, value) => assign name (toString value.toInt)
      return toString value.toInt

/-- The output of commands without the ends of lines at its end. -/
def outputOf (runner : Runner) (script : List Command) : Step String := do
  let index ← addStream ⟨.memory .empty, 0, true⟩
  let (result, after) ← withStream 1 index (apart do
    script.forM (runner.command false))
  let status :=
    match result with
    | .error (.killed signal) => 128 + signal
    | _ => after.status
  modify fun p => { p with status, substituted := status }
  let output := ((← get).contentOf index).toList.filter (· ≠ '\x00')
  return String.ofList (output.reverse.dropWhile (· = '\n')).reverse

/-- Refuses to go on without the value of a parameter. -/
def refuseUnset {α : Type} (name message : String) : Step α :=
  fail (name ++ ": " ++ message)

/-- The glyphs of a word in the place of a parameter, which is split unless it is quoted. -/
def insertedGlyphs (runner : Runner) (full : Bool) (word : List Piece) (quoted : Bool) :
    Step (List Glyph) := do
  let glyphs ← runner.expand full (tildeExpanded (← get) word)
  return (if quoted then [.quote] else []) ++ glyphs.map fun
    | .octet c false _ => .octet c false true
    | glyph => glyph

/-- The glyphs of a parameter. -/
def parameterGlyphs (runner : Runner) (full : Bool) (name : String) (operation : Operation)
    (nullCounts : Bool) (word : List Piece) (quoted : Bool) : Step (List Glyph) := do
  let p ← get
  let value := p.parameter name
  let isUnset := value.isUnset nullCounts
  let demanded : Step Unit := do
    match value with
    | .unset => if p.isSet 'u' then refuseUnset name "parameter not set"
    | _ => pure ()
  let taken := valueGlyphs p full name quoted value
  match operation with
  | .invalid => fail "Bad substitution"
  | .value =>
    demanded
    return taken
  | .length =>
    demanded
    return Glyph.result (toString (value.joined p.joint).length) quoted
  | .fallback =>
    if isUnset then insertedGlyphs runner full word quoted else return taken
  | .alternative =>
    if isUnset then return Glyph.result "" quoted else insertedGlyphs runner full word quoted
  | .demand =>
    if isUnset then
      if word.isEmpty then
        refuseUnset name (if nullCounts then "parameter not set or null" else "parameter not set")
      else refuseUnset name (← textOf runner word)
    else return taken
  | .assign =>
    if isUnset then
      let text ← textOf runner word
      if !isName name then fail (name ++ ": bad variable name")
      assign name text
      return Glyph.result text quoted
    else return taken
  | .trimStart longest =>
    demanded
    let globs := Glob.ofMarked (Glyph.marked (← runner.expand false word))
    return Glyph.result
      (String.ofList (Glob.cutStart globs longest (value.joined p.joint).toList)) quoted
  | .trimEnd longest =>
    demanded
    let globs := Glob.ofMarked (Glyph.marked (← runner.expand false word))
    return Glyph.result
      (String.ofList (Glob.cutEnd globs longest (value.joined p.joint).toList)) quoted

/-- The glyphs of a piece. -/
def pieceGlyphs (runner : Runner) (full : Bool) : Piece → Step (List Glyph)
  | .text text quoted => return Glyph.written text quoted
  | .parameter name operation nullCounts word quoted =>
    parameterGlyphs runner full name operation nullCounts word quoted
  | .output script quoted => return Glyph.result (← outputOf runner script) quoted
  | .arithmetic expression quoted => do
    let text := Glyph.text (← runner.expand false expression)
    return Glyph.result (← calculate text) quoted

/-- The glyphs of pieces. -/
def glyphs (runner : Runner) (full : Bool) (pieces : List Piece) : Step (List Glyph) := do
  return (← pieces.mapM (pieceGlyphs runner full)).flatten

/-- The fields of a word. -/
def fields (runner : Runner) (word : Word) : Step (List String) := do
  let glyphs ← runner.expand true (tildeExpanded (← get) word)
  let p ← get
  return (Fielding.fields p.separators glyphs).flatMap p.globbed

/-- The text of the value of an assignment. -/
def assigned (runner : Runner) (word : Word) : Step String := do
  return Glyph.text (← runner.expand false (tildesExpanded (← get) word))

/-- The pattern of a word. -/
def pattern (runner : Runner) (word : Word) : Step (List Glob) := do
  return Glob.ofMarked (Glyph.marked (← runner.expand false (tildeExpanded (← get) word)))

end Expansion

end Shell

end RecordWatch
