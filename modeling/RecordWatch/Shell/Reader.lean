import RecordWatch.Shell.Reader.Word

/-! Reading the commands of a script. A script is read one complete line at a time, so the commands
before a mistake still run. -/

namespace RecordWatch

namespace Shell

namespace Reading

/-- The words that end a list of commands. -/
def endings : List String := ["do", "done", "elif", "else", "esac", "fi", "then", "\x7d"]

/-- Whether a list of commands ends here. -/
def atEnding : Reading Bool := do
  skipBlanks
  let input ← get
  match input.rest with
  | [] | ')' :: _ => return true
  | ';' :: ';' :: _ => return true
  | _ => return (input.keyword?.map endings.contains).getD false

/-- Whether a redirection is next. -/
def atRedirection : Reading Bool := do
  skipBlanks
  match (← get).rest with
  | '<' :: _ | '>' :: _ => return true
  | c :: d :: _ => return c.isDigit && (d = '<' || d = '>')
  | _ => return false

/-- Whether a word is next. -/
def atWord : Reading Bool := do
  skipBlanks
  return ((← get).rest.head?.map fun c => !isDelimiter c).getD false

end Reading

/-! ### Documents in the script -/

/-- The text of a bare delimiter; whether any of it is quoted. -/
def delimiterOf (word : Word) : String × Bool :=
  (String.join (word.map shown), word.any isQuoted)
where
  /-- The text of a piece. -/
  shown : Piece → String
    | .text text _ => text
    | .parameter name _ _ _ _ => "$" ++ name
    | _ => ""
  /-- Whether a piece is quoted. -/
  isQuoted : Piece → Bool
    | .text _ quoted => quoted
    | _ => false

namespace Input

/-- What is left of a line, and what comes after it. Quotes and comments may hide ends of lines. -/
def splitLine (input : List Char) : List Char × List Char := go .none input
where
  /-- The split within quotes of one kind; after a backslash the octet is quoted. -/
  go : Option Char → List Char → List Char × List Char
    | _, [] => ([], [])
    | none, '\n' :: rest => (['\n'], rest)
    | none, ' ' :: '#' :: rest =>
      (' ' :: '#' :: rest.takeWhile (· ≠ '\n') ++ ['\n'], (rest.dropWhile (· ≠ '\n')).drop 1)
    | none, c :: rest =>
      let (line, after) := go (if c = '\'' ∨ c = '"' then some c else none) rest
      (c :: line, after)
    | some quote, c :: rest =>
      let (line, after) := go (if c = quote then none else some quote) rest
      (c :: line, after)

/-- The lines of a document up to its delimiter, and what comes after that if it is there. Leading
tabs are no part of the lines if `stripped`. -/
def document (delimiter : String) (stripped : Bool) :
    List String → List String × Option (List String)
  | [] => ([], none)
  | line :: rest =>
    let line := if stripped then String.ofList (line.toList.dropWhile (· = '\t')) else line
    if line = delimiter then ([], some rest)
    else
      let (body, after) := document delimiter stripped rest
      (line :: body, after)

end Input

namespace Grammar

/-- The text of a document whose delimiter was just taken. Its lines are taken out of the script
after the end of this line. -/
def document (grammar : Grammar) (delimiter : Word) (stripped : Bool) : Reading Word := do
  let input ← get
  let (delimiter, quoted) := delimiterOf delimiter
  let (line, after) := Input.splitLine input.rest
  let (body, rest?) := Input.document delimiter stripped ((String.ofList after).splitOn "\n")
  let text := if rest?.isSome then Octets.ofLines body else String.intercalate "\n" body
  let outside : Input :=
    { input with
      rest := line ++ (String.intercalate "\n" (rest?.getD [])).toList
      taken := input.taken + body.length + 1 }
  if quoted then
    set outside
    return [.text text true]
  else
    set (⟨text.toList, input.line + 1 + input.taken, 0⟩ : Input)
    let pieces ← grammar.pieces .document
    set outside
    return pieces

/-- The redirection that is next. -/
def redirection (grammar : Grammar) : Reading Redirection := do
  let number ←
    match (← get).rest with
    | c :: _ =>
      if c.isDigit then
        Reading.skip
        pure (some (c.toNat - 48))
      else pure none
    | [] => pure none
  match ← Reading.peekTwo with
  | (some '>', some '>') =>
    Reading.skipTwo
    return .file (number.getD 1) .append (← target)
  | (some '>', some '|') =>
    Reading.skipTwo
    return .file (number.getD 1) .overwrite (← target)
  | (some '>', some '&') =>
    Reading.skipTwo
    return .duplicate (number.getD 1) (← target)
  | (some '>', _) =>
    Reading.skip
    return .file (number.getD 1) .write (← target)
  | (some '<', some '<') =>
    Reading.skipTwo
    let stripped := (← Reading.peek) = some '-'
    if stripped then Reading.skip
    return .document (number.getD 0) (← grammar.document (← target) stripped)
  | (some '<', some '&') =>
    Reading.skipTwo
    return .duplicate (number.getD 0) (← target)
  | (some '<', some '>') =>
    Reading.skipTwo
    return .file (number.getD 0) .readWrite (← target)
  | _ =>
    Reading.skip
    return .file (number.getD 0) .read (← target)
where
  /-- The word after a redirection. -/
  target : Reading Word := do
    if ← Reading.atWord then grammar.pieces .plain else Reading.unexpected ""

/-- The redirections that come next, at most `limit` of them. -/
def redirections (grammar : Grammar) : Nat → Reading (List Redirection)
  | 0 => return []
  | limit + 1 => do
    if ← Reading.atRedirection then
      return (← grammar.redirection) :: (← grammar.redirections limit)
    else return []

/-! ### Simple commands -/

/-- A simple command so far: its assignments, words and redirections, each latest first. -/
structure SimpleDraft where
  assignments : List (String × Word)
  words : List Word
  redirections : List Redirection

/-- The name and the value of an assignment. -/
def assignment? : Word → Option (String × Word)
  | .text text false :: rest =>
    let name := text.toList.takeWhile (· ≠ '=')
    match text.toList.dropWhile (· ≠ '=') with
    | '=' :: value =>
      if isName (String.ofList name) then
        let value := if value.isEmpty then [] else [.text (String.ofList value) false]
        some (String.ofList name, value ++ rest)
      else none
    | _ => none
  | _ => none

/-- The builtins that functions cannot replace. -/
def specialBuiltins : List String :=
  [".", ":", "break", "continue", "eval", "exec", "exit", "export", "local", "readonly", "return",
    "set", "shift", "times", "trap", "unset"]

/-- The function whose name was just taken. -/
def function (grammar : Grammar) (name : Word) : Reading Command := do
  Reading.skip
  Reading.skipBlanks
  if (← Reading.peek) ≠ some ')' then Reading.unexpected ")"
  Reading.skip
  match name with
  | [.text name false] =>
    if !isName name || specialBuiltins.contains name then Reading.refuse "Bad function name"
    Reading.skipLines
    return .function name (← grammar.command)
  | _ => Reading.refuse "Bad function name"

/-- A simple command that begins on a line, after a draft of it; at most `limit` words and
redirections come next. -/
def simpleAfter (grammar : Grammar) (line : Nat) : Nat → SimpleDraft → Reading Command
  | 0, draft => return finished draft
  | limit + 1, draft => do
    if ← Reading.atRedirection then
      let redirection ← grammar.redirection
      grammar.simpleAfter line limit
        { draft with redirections := redirection :: draft.redirections }
    else if ← Reading.atWord then
      let word ← grammar.pieces .plain
      match assignment? word, draft.words with
      | some assignment, [] =>
        grammar.simpleAfter line limit
          { draft with assignments := assignment :: draft.assignments }
      | _, _ => grammar.simpleAfter line limit { draft with words := word :: draft.words }
    else
      match draft, (← get).rest with
      | ⟨[], [name], []⟩, '(' :: _ => grammar.function name
      | _, _ => return finished draft
where
  /-- The command of a draft. -/
  finished (draft : SimpleDraft) : Command :=
    .simple line draft.assignments.reverse draft.words.reverse draft.redirections.reverse

/-- A simple command, which has at least one word or redirection. -/
def simple (grammar : Grammar) : Reading Command := do
  let isWord ← Reading.atWord
  let isRedirection ← Reading.atRedirection
  if isWord || isRedirection then
    let input ← get
    grammar.simpleAfter input.line (input.rest.length + 1) ⟨[], [], []⟩
  else Reading.unexpected ""

/-! ### Compound commands -/

/-- Commands up to a keyword, of which there has to be one, and the keyword. -/
def commandsUpTo (grammar : Grammar) (ending : String) : Reading Command := do
  let body ← body grammar
  Reading.expectKeyword ending
  return body
where
  /-- Commands, of which there has to be one. -/
  body (grammar : Grammar) : Reading Command := do
    Reading.skipLines
    if ← Reading.atEnding then
      if (← get).rest.isEmpty then return .sequence [] else Reading.unexpected ""
    else return .sequence (← grammar.commands)

/-- What follows the first body of a choice, with at most `limit` further conditions. -/
def alternatives (grammar : Grammar) : Nat → Reading (Option Command)
  | 0 => return none
  | limit + 1 => do
    Reading.skipBlanks
    match (← get).keyword? with
    | some "elif" =>
      Reading.takeKeyword "elif"
      let condition ← grammar.commandsUpTo "then"
      let body ← commandsUpTo.body grammar
      return some (.choice condition body (← grammar.alternatives limit))
    | some "else" =>
      Reading.takeKeyword "else"
      return some (← grammar.commandsUpTo "fi")
    | _ =>
      Reading.expectKeyword "fi"
      return none

/-- A choice, whose keyword was just taken. -/
def choice (grammar : Grammar) : Reading Command := do
  let condition ← grammar.commandsUpTo "then"
  let body ← commandsUpTo.body grammar
  return .choice condition body (← grammar.alternatives ((← get).rest.length + 1))

/-- A loop, whose keyword was just taken. -/
def loop (grammar : Grammar) (untilSuccess : Bool) : Reading Command := do
  let condition ← grammar.commandsUpTo "do"
  return .loop untilSuccess condition (← grammar.commandsUpTo "done")

/-- The words that come next, at most `limit` of them. -/
def someWords (grammar : Grammar) : Nat → Reading (List Word)
  | 0 => return []
  | limit + 1 => do
    if ← Reading.atRedirection then return []
    else if ← Reading.atWord then
      return (← grammar.pieces .plain) :: (← grammar.someWords limit)
    else return []

/-- A loop over words, whose keyword was just taken. -/
def each (grammar : Grammar) (line : Nat) : Reading Command := do
  if !(← Reading.atWord) || (← Reading.atRedirection) then Reading.refuse "Bad for loop variable"
  match ← grammar.pieces .plain with
  | [.text name false] =>
    if !isName name then Reading.refuse "Bad for loop variable"
    Reading.skipLines
    let words ←
      if (← get).keyword? = some "in" then
        Reading.takeKeyword "in"
        let words ← grammar.someWords ((← get).rest.length + 1)
        Reading.skipBlanks
        match (← get).rest with
        | ';' :: ';' :: _ => Reading.unexpected ""
        | ';' :: _ | '\n' :: _ =>
          Reading.skip
          pure words
        | _ => Reading.unexpected ""
      else
        if (← get).rest.head? = some ';' then Reading.skip
        pure [[.parameter "@" .value false [] true]]
    Reading.skipLines
    Reading.expectKeyword "do"
    return .each line name words (← grammar.commandsUpTo "done")
  | _ => Reading.refuse "Bad for loop variable"

/-- The patterns of a case, at most `limit` of them, with the parenthesis after them. -/
def patterns (grammar : Grammar) : Nat → Reading (List Word)
  | 0 => return []
  | limit + 1 => do
    let pattern ← if ← Reading.atWord then grammar.pieces .plain else Reading.unexpected ")"
    Reading.skipBlanks
    match (← get).rest with
    | '|' :: _ =>
      Reading.skip
      return pattern :: (← grammar.patterns limit)
    | ')' :: _ =>
      Reading.skip
      return [pattern]
    | _ => Reading.unexpected ")"

/-- The cases of a selection, at most `limit` of them, with the keyword after them. -/
def cases (grammar : Grammar) : Nat → Reading (List (List Word × Command))
  | 0 => return []
  | limit + 1 => do
    Reading.skipLines
    if (← get).keyword? = some "esac" then
      Reading.takeKeyword "esac"
      return []
    else
      if (← get).rest.head? = some '(' then Reading.skip
      let patterns ← grammar.patterns ((← get).rest.length + 1)
      let body ← grammar.commands
      Reading.skipLines
      match (← get).rest with
      | ';' :: ';' :: _ =>
        Reading.skipTwo
        return (patterns, .sequence body) :: (← grammar.cases limit)
      | _ =>
        if (← get).keyword? = some "esac" then
          Reading.takeKeyword "esac"
          return [(patterns, .sequence body)]
        else Reading.unexpected ";;"

/-- A selection, whose keyword was just taken. -/
def select (grammar : Grammar) (line : Nat) : Reading Command := do
  let word ← if ← Reading.atWord then grammar.pieces .plain else Reading.unexpected "word"
  Reading.skipLines
  Reading.expectKeyword "in"
  return .select line word (← grammar.cases ((← get).rest.length + 1))

/-- A command in parentheses, the first of which was just taken. -/
def subshell (grammar : Grammar) (line : Nat) : Reading Command := do
  let body ← commandsUpTo.body grammar
  Reading.skipBlanks
  match (← get).rest with
  | ')' :: _ =>
    Reading.skip
    return .subshell line body
  | _ => Reading.unexpected ")"

/-- A command, with the redirections after a compound one. -/
def readCommand (grammar : Grammar) : Reading Command := do
  Reading.skipBlanks
  let input ← get
  let line := input.line
  let compound? : Option (Reading Command) :=
    match input.keyword?, input.rest with
    | some "if", _ => some (do Reading.takeKeyword "if"; grammar.choice)
    | some "while", _ => some (do Reading.takeKeyword "while"; grammar.loop false)
    | some "until", _ => some (do Reading.takeKeyword "until"; grammar.loop true)
    | some "for", _ => some (do Reading.takeKeyword "for"; grammar.each line)
    | some "case", _ => some (do Reading.takeKeyword "case"; grammar.select line)
    | some "\x7b", _ => some (do Reading.takeKeyword "\x7b"; grammar.commandsUpTo "\x7d")
    | some _, _ => some (Reading.unexpected "")
    | none, '(' :: _ => some (do Reading.skip; grammar.subshell line)
    | none, _ => none
  match compound? with
  | none => grammar.simple
  | some compound =>
    let command ← compound
    match ← grammar.redirections ((← get).rest.length + 1) with
    | [] => return command
    | redirections => return .redirected line command redirections

/-! ### Lists of commands -/

/-- More commands of a pipeline, at most `limit` of them. -/
def pipelineRest (grammar : Grammar) : Nat → Reading (List Command)
  | 0 => return []
  | limit + 1 => do
    Reading.skipBlanks
    match (← get).rest with
    | '|' :: '|' :: _ => return []
    | '|' :: _ =>
      Reading.skip
      Reading.skipLines
      return (← grammar.command) :: (← grammar.pipelineRest limit)
    | _ => return []

/-- A pipeline. -/
def pipeline (grammar : Grammar) : Reading Command := do
  Reading.skipBlanks
  let negated := (← get).keyword? = some "!"
  if negated then Reading.takeKeyword "!"
  let first ← grammar.command
  let rest ← grammar.pipelineRest ((← get).rest.length + 1)
  let command := if rest.isEmpty then first else .pipeline (first :: rest)
  return if negated then .negation command else command

/-- Pipelines joined by `&&` and `||`, after the first one; at most `limit` more. -/
def joinedAfter (grammar : Grammar) : Nat → Command → Reading Command
  | 0, command => return command
  | limit + 1, command => do
    Reading.skipBlanks
    match (← get).rest with
    | '&' :: '&' :: _ =>
      Reading.skipTwo
      Reading.skipLines
      grammar.joinedAfter limit (.both command (← grammar.pipeline))
    | '|' :: '|' :: _ =>
      Reading.skipTwo
      Reading.skipLines
      grammar.joinedAfter limit (.either command (← grammar.pipeline))
    | _ => return command

/-- Pipelines joined by `&&` and `||`. -/
def joined (grammar : Grammar) : Reading Command := do
  grammar.joinedAfter ((← get).rest.length + 1) (← grammar.pipeline)

/-- What ends a command in a list. -/
inductive Separator where
  | semicolon
  | newline
  | nothing

/-- A command of a list, with what ends it. -/
def item (grammar : Grammar) : Reading (Command × Separator) := do
  let command ← grammar.joined
  Reading.skipBlanks
  match (← get).rest with
  | ';' :: ';' :: _ => return (command, .nothing)
  | '&' :: _ =>
    Reading.skip
    return (.background command, .semicolon)
  | ';' :: _ =>
    Reading.skip
    return (command, .semicolon)
  | '\n' :: _ =>
    Reading.skip
    return (command, .newline)
  | _ => return (command, .nothing)

/-- Commands on any number of lines, at most `limit` of them. -/
def commandsWithin (grammar : Grammar) : Nat → Reading (List Command)
  | 0 => return []
  | limit + 1 => do
    Reading.skipLines
    if ← Reading.atEnding then return []
    let (command, separator) ← grammar.item
    match separator with
    | .nothing => return [command]
    | _ => return command :: (← grammar.commandsWithin limit)

/-- Commands on any number of lines. -/
def readCommands (grammar : Grammar) : Reading (List Command) := do
  grammar.commandsWithin ((← get).rest.length + 1)

/-- The readers of at most `depth` levels. -/
def ofDepth : Nat → Grammar
  | 0 =>
    { pieces := fun _ => Reading.refuse "too deep"
      commands := Reading.refuse "too deep"
      command := Reading.refuse "too deep" }
  | depth + 1 =>
    let grammar := ofDepth depth
    { pieces := grammar.readPieces
      commands := grammar.readCommands
      command := grammar.readCommand }

/-- The commands up to the end of a line, at most `limit` of them. -/
def lineWithin (grammar : Grammar) : Nat → Reading (List Command)
  | 0 => return []
  | limit + 1 => do
    Reading.skipBlanks
    match (← get).rest with
    | [] => return []
    | '\n' :: _ =>
      Reading.skip
      return []
    | _ =>
      let (command, separator) ← grammar.item
      match separator with
      | .semicolon => return command :: (← grammar.lineWithin limit)
      | .newline => return [command]
      | .nothing =>
        if (← get).rest.isEmpty then return [command] else Reading.unexpected ""

end Grammar

/-- The levels that a script may have: no more than its octets, and no more than a shell
bears. -/
def maxLevels : Nat := 500

/-- The commands of the next complete line of a script. -/
def nextLine : Reading (List Command) := do
  let length := (← get).rest.length
  (Grammar.ofDepth (min (2 * length + 8) maxLevels)).lineWithin (length + 1)

end Shell

end RecordWatch
