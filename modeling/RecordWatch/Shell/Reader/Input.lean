import RecordWatch.Shell.Script
import RecordWatch.Shell.Octets

/-! The text of a script that is still to be read. -/

namespace RecordWatch

namespace Shell

/-- The rest of a script, the line that it begins on, and how many lines were taken out of it at the
end of that line. -/
structure Input where
  rest : List Char
  line : Nat
  taken : Nat

/-- Why a text is no script, and the line on which that shows. -/
structure SyntaxError where
  line : Nat
  reason : String

/-- A reader of the front of a script. -/
abbrev Reading := StateT Input (Except SyntaxError)

namespace Input

/-- The first line of a script. -/
def ofText (text : String) : Input := ⟨text.toList, 1, 0⟩

/-- The input after the end of a line, which was just passed. -/
def nextLine (input : Input) (rest : List Char) : Input :=
  ⟨rest, input.line + 1 + input.taken, 0⟩

/-- The input after one more octet. -/
def advance (input : Input) : Input :=
  match input.rest with
  | [] => input
  | '\n' :: rest => input.nextLine rest
  | _ :: rest => { input with rest }

/-- The input without the lines that a backslash joins to the next one. -/
def joined (input : Input) : Input := go input input.rest
where
  /-- The input that goes on with the given octets. -/
  go (input : Input) : List Char → Input
    | '\\' :: '\n' :: rest => go (input.nextLine rest) rest
    | rest => { input with rest }

/-- The input without blanks and comments, up to the end of the line. -/
def withoutBlanks (input : Input) : Input := go input input.rest
where
  /-- The input that goes on with the given octets. -/
  go (input : Input) : List Char → Input
    | ' ' :: rest | '\t' :: rest => go input rest
    | '\\' :: '\n' :: rest => go (input.nextLine rest) rest
    | '#' :: rest => { input with rest := rest.dropWhile (· ≠ '\n') }
    | rest => { input with rest }

end Input

namespace Reading

variable {α : Type}

/-- Refuses the text. -/
def refuse (reason : String) : Reading α := do throw ⟨(← get).line, reason⟩

/-- The next octet, which is not taken. -/
def peek : Reading (Option Char) := do
  modify Input.joined
  return (← get).rest.head?

/-- The next two octets, which are not taken. -/
def peekTwo : Reading (Option Char × Option Char) := do
  modify Input.joined
  match (← get).rest with
  | [] => return (none, none)
  | c :: rest => return (some c, ({ ← get with rest : Input }.joined).rest.head?)

/-- Takes an octet. -/
def skip : Reading Unit := modify Input.advance

/-- Takes two octets. -/
def skipTwo : Reading Unit := do
  skip
  modify Input.joined
  skip

/-- Takes the longest run of octets that satisfy `p`. -/
def takeRun (p : Char → Bool) : Reading String := do
  go p ((← get).rest.length + 1) []
where
  /-- The run, at most `limit` octets of which are still to come, after some octets, latest
  first. -/
  go (p : Char → Bool) : Nat → List Char → Reading String
    | 0, taken => return String.ofList taken.reverse
    | limit + 1, taken => do
      match ← peek with
      | some c =>
        if p c then
          skip
          go p limit (c :: taken)
        else return String.ofList taken.reverse
      | none => return String.ofList taken.reverse

/-- Takes the octets before a quote, and the quote. -/
def takeQuoted (quote : Char) : Reading String := do
  let input ← get
  let inside := input.rest.takeWhile (· ≠ quote)
  let after : Input := ⟨[], input.line, input.taken⟩
  let passed := inside.foldl (fun input c => if c = '\n' then input.nextLine [] else input) after
  match input.rest.dropWhile (· ≠ quote) with
  | [] => do
    set passed
    refuse "Unterminated quoted string"
  | _ :: rest => do
    set { passed with rest }
    return String.ofList inside

/-- Passes over blanks. -/
def skipBlanks : Reading Unit := modify Input.withoutBlanks

/-- Passes over blanks and the ends of lines. -/
def skipLines : Reading Unit := do go ((← get).rest.length + 1)
where
  /-- Passes over at most `limit` ends of lines. -/
  go : Nat → Reading Unit
    | 0 => return ()
    | limit + 1 => do
      skipBlanks
      match (← get).rest with
      | '\n' :: _ =>
        skip
        go limit
      | _ => return ()

end Reading

/-- Whether an octet ends a bare word. -/
def isDelimiter (c : Char) : Bool :=
  [' ', '\t', '\n', ';', '&', '|', '(', ')', '<', '>'].contains c

namespace Input

/-- The keyword that the input begins with. -/
def keyword? (input : Input) : Option String :=
  let word := String.ofList (input.rest.takeWhile fun c => !isDelimiter c)
  if keywords.contains word then some word else none

/-- What the input begins with, as errors name it. -/
def tokenName (input : Input) : String :=
  match input.rest with
  | [] => "end of file"
  | '\n' :: _ => "newline"
  | '&' :: '&' :: _ => "\"&&\""
  | '&' :: _ => "\"&\""
  | '|' :: '|' :: _ => "\"||\""
  | '|' :: _ => "\"|\""
  | ';' :: ';' :: _ => "\";;\""
  | ';' :: _ => "\";\""
  | '(' :: _ => "\"(\""
  | ')' :: _ => "\")\""
  | '<' :: _ | '>' :: _ => "redirection"
  | c :: d :: _ =>
    if c.isDigit && (d = '<' || d = '>') then "redirection"
    else input.keyword?.elim "word" fun word => "\"" ++ word ++ "\""
  | _ => input.keyword?.elim "word" fun word => "\"" ++ word ++ "\""

end Input

namespace Reading

variable {α : Type}

/-- Refuses what comes next, where something else may be expected, which is named in quotes unless
it is any word. -/
def unexpected (expected : String) : Reading α := do
  skipBlanks
  let input ← get
  let name := input.tokenName
  if name = "newline" then skip
  refuse (name ++ " unexpected" ++
    if expected = "" then ""
    else if expected = "word" then " (expecting word)"
    else " (expecting \"" ++ expected ++ "\")")

/-- Takes a keyword. -/
def takeKeyword (word : String) : Reading Unit :=
  modify fun input => { input with rest := input.rest.drop word.length }

/-- Takes a keyword that has to come next. -/
def expectKeyword (word : String) : Reading Unit := do
  skipBlanks
  if (← get).keyword? = some word then takeKeyword word else unexpected word

end Reading

end Shell

end RecordWatch
