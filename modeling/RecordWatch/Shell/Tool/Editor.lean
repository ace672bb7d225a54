import RecordWatch.Shell.Regex
import RecordWatch.Shell.Tool

/-! The program that edits a stream of lines by a script. -/

namespace RecordWatch

namespace Shell

namespace Tool

open Process

namespace Edit

/-- What lines a command is for: a line by its number, the last one, every so many lines from one
on, or those in which a pattern is found; without a pattern, the one that was used last. -/
inductive Address where
  | line (n : Nat)
  | last
  | steps (first step : Nat)
  | found (regex : Option Regex) (fold : Bool)
  | after (count : Nat)

/-- A part of a replacement: an octet or what a group matched; group 0 is the whole match. -/
inductive Replacement where
  | octet (c : Char)
  | group (n : Nat)

/-- What a command does. -/
inductive Verb where
  | substitute (regex : Option Regex) (fold : Bool) (replacement : List Replacement)
      (all : Bool) (wanted : Nat) (print : Bool)
  | translate (table : List (Char × Char))
  | append (text : String)
  | insert (text : String)
  | change (text : String)
  | quit (prints : Bool) (status : Nat)
  | block (size : Nat)
  | branch (onlyAfterSubstitution : Bool) (label : String)
  | label (name : String)
  | simple (letter : Char)

/-- A command with its addresses. -/
structure Instruction where
  first : Option Address
  second : Option Address
  negated : Bool
  verb : Verb

/-! ### Reading a script -/

/-- A reader of the front of a script; its errors say what is wrong, and what is left of the script
shows where. -/
abbrev Reader := ExceptT String (StateM (List Char))

/-- The octets up to a delimiter, which is taken too. A delimiter after a backslash counts as
itself. -/
def delimited (delimiter : Char) : List Char → Option (List Char × List Char)
  | [] => none
  | '\\' :: c :: rest =>
    (delimited delimiter rest).map fun (taken, left) =>
      (if c = delimiter then c :: taken else '\\' :: c :: taken, left)
  | c :: rest =>
    if c = delimiter then some ([], rest)
    else (delimited delimiter rest).map fun (taken, left) => (c :: taken, left)

/-- The octets up to a delimiter, which has to be there. -/
def takeDelimited (delimiter : Char) (missing : String) : Reader (List Char) := do
  match delimited delimiter (← get) with
  | some (taken, left) =>
    set left
    return taken
  | none =>
    set ([] : List Char)
    throw missing

/-- Takes the octets that satisfy `p`. -/
def takeRun (p : Char → Bool) : Reader (List Char) := do
  let octets ← get
  set (octets.dropWhile p)
  return octets.takeWhile p

/-- Whether the next octet is a given one, which is taken then. -/
def accept (c : Char) : Reader Bool := do
  match ← get with
  | d :: rest =>
    if c = d then
      set rest
      return true
    else return false
  | [] => return false

/-- The expression between delimiters; an empty one stands for the one used last. -/
def regex? (extended : Bool) (octets : List Char) : Reader (Option Regex) := do
  if octets.isEmpty then return none
  match Regex.ofText? extended (String.ofList octets) with
  | some regex => return some regex
  | none => throw "Invalid preceding regular expression"

/-- An address, if there is one. -/
def address (extended : Bool) : Reader (Option Address) := do
  match ← get with
  | '$' :: rest =>
    set rest
    return some .last
  | '+' :: rest =>
    set rest
    return some (.after (decimalValue (← takeRun Char.isDigit)))
  | '/' :: rest =>
    set rest
    let octets ← takeDelimited '/' "unterminated address regex"
    let fold ← accept 'I'
    return some (.found (← regex? extended octets) fold)
  | '\\' :: delimiter :: rest =>
    set rest
    let octets ← takeDelimited delimiter "unterminated address regex"
    let fold ← accept 'I'
    return some (.found (← regex? extended octets) fold)
  | c :: _ =>
    if c.isDigit then
      let n := decimalValue (← takeRun Char.isDigit)
      if ← accept '~' then return some (.steps n (decimalValue (← takeRun Char.isDigit)))
      else return some (.line n)
    else return none
  | [] => return none

/-- The parts of a replacement. -/
def replacement : List Char → List Replacement
  | '\\' :: c :: rest =>
    (if c.isDigit then .group (c.toNat - 48)
      else if c = 'n' then .octet '\n'
      else if c = 't' then .octet '\t'
      else .octet c) :: replacement rest
  | '&' :: rest => .group 0 :: replacement rest
  | c :: rest => .octet c :: replacement rest
  | [] => []

/-- Refuses what stands between the end of a command and the next one. -/
def closed (wrong : String) : Reader Unit := do
  let _ ← takeRun (· = ' ')
  match ← get with
  | [] => pure ()
  | c :: rest =>
    if [';', '\n', '#', '\x7d'].contains c then pure ()
    else
      set rest
      throw wrong

/-- What is wrong if something stands there. -/
def extraOctets : String := "extra characters after command"

/-- A substitution, after its letter. -/
def substitution (extended : Bool) : Reader Verb := do
  match ← get with
  | [] => throw "unterminated `s' command"
  | delimiter :: rest =>
    set rest
    let pattern ← takeDelimited delimiter "unterminated `s' command"
    let text ← takeDelimited delimiter "unterminated `s' command"
    let flags ← takeRun fun c => ['g', 'p', 'i', 'I'].contains c || c.isDigit
    let digits := flags.filter Char.isDigit
    closed "unknown option to `s'"
    return .substitute (← regex? extended pattern) (flags.contains 'i' || flags.contains 'I')
      (replacement text) (flags.contains 'g') (if digits.isEmpty then 1 else decimalValue digits)
      (flags.contains 'p')

/-- The text of a command that adds lines: the rest of the line, or the lines after a backslash. -/
def addedText : Reader String := do
  let _ ← takeRun fun c => c = ' ' || c = '\t'
  match ← get with
  | '\\' :: '\n' :: rest => set rest
  | '\\' :: rest => set (rest.dropWhile (· = ' '))
  | _ => pure ()
  let (text, left) := go (← get)
  set left
  return String.ofList text ++ "\n"
where
  /-- The octets up to the end of a line that no backslash joins to the next, and what is left. -/
  go : List Char → List Char × List Char
    | '\\' :: c :: rest =>
      let (text, left) := go rest
      (c :: text, left)
    | '\n' :: rest => ([], rest)
    | c :: rest =>
      let (text, left) := go rest
      (c :: text, left)
    | [] => ([], [])

/-- The octets of a table of single octets. -/
def tableOctets : List Char → List Char
  | '\\' :: 'n' :: rest => '\n' :: tableOctets rest
  | '\\' :: '\\' :: rest => '\\' :: tableOctets rest
  | c :: rest => c :: tableOctets rest
  | [] => []

/-- What the next letter does. -/
def verb (extended : Bool) : Reader Verb := do
  match ← get with
  | [] => throw "missing command"
  | c :: rest =>
    set rest
    match c with
    | 's' => substitution extended
    | 'y' =>
      match rest with
      | [] => throw "unterminated `y' command"
      | delimiter :: rest =>
        set rest
        let source ← takeDelimited delimiter "unterminated `y' command"
        let target ← takeDelimited delimiter "unterminated `y' command"
        let source := tableOctets source
        let target := tableOctets target
        if source.length ≠ target.length then
          throw "strings for `y' command are different lengths"
        closed extraOctets
        return .translate (source.zip target)
    | 'a' => return .append (← addedText)
    | 'i' => return .insert (← addedText)
    | 'c' => return .change (← addedText)
    | 'q' | 'Q' =>
      let _ ← takeRun (· = ' ')
      let status := decimalValue (← takeRun Char.isDigit)
      closed extraOctets
      return .quit (c = 'q') status
    | ':' =>
      let _ ← takeRun (· = ' ')
      return .label (String.ofList (← takeRun fun c => c ≠ '\n' && c ≠ ';'))
    | 'b' | 't' =>
      let _ ← takeRun (· = ' ')
      let name ← takeRun fun c => c ≠ '\n' && c ≠ ';' && c ≠ '\x7d'
      return .branch (c = 't') (String.ofList (name.reverse.dropWhile (· = ' ')).reverse)
    | '\x7b' => return .block 0
    | c =>
      if ['p', 'd', 'P', 'D', '=', 'n', 'N', 'h', 'H', 'g', 'G', 'x', '\x7d', 'l'].contains c then
        closed extraOctets
        return .simple c
      else throw ("unknown command: `" ++ String.singleton c ++ "'")

/-- The commands of a script, at most `limit` of them. -/
def instructions (extended : Bool) : Nat → Reader (List Instruction)
  | 0 => return []
  | limit + 1 => do
    let _ ← takeRun fun c => isSpace c || c = ';'
    match ← get with
    | [] => return []
    | '#' :: rest =>
      set (rest.dropWhile (· ≠ '\n'))
      instructions extended limit
    | _ =>
      let first ← address extended
      let _ ← takeRun (· = ' ')
      let second ←
        if first.isSome then
          if ← accept ',' then
            let _ ← takeRun (· = ' ')
            match ← address extended with
            | some second => pure (some second)
            | none =>
              modify (List.drop 1)
              throw "unexpected `,'"
          else pure none
        else pure none
      let _ ← takeRun (· = ' ')
      let negated ← accept '!'
      let _ ← takeRun (· = ' ')
      let verb ← verb extended
      return ⟨first, second, negated, verb⟩ :: (← instructions extended limit)

/-- The number of commands up to the end of a block that has begun, within `depth` others. -/
def blockSize : Nat → List Instruction → Option Nat
  | _, [] => none
  | depth, instruction :: rest =>
    match instruction.verb with
    | .simple '\x7d' => if depth = 0 then some 0 else (blockSize (depth - 1) rest).map (· + 1)
    | .block _ => (blockSize (depth + 1) rest).map (· + 1)
    | _ => (blockSize depth rest).map (· + 1)

/-- The commands with the sizes of their blocks. -/
def sized : List Instruction → Except (Nat × String) (List Instruction)
  | [] => .ok []
  | instruction :: rest => do
    let others ← sized rest
    match instruction.verb with
    | .block _ =>
      match blockSize 0 rest with
      | some size => return { instruction with verb := .block size } :: others
      | none => throw (0, "unmatched `\x7b'")
    | _ => return instruction :: others

/-- The commands of a script, or the number of octets up to what is wrong, and what that is. -/
def ofText (extended : Bool) (text : String) : Except (Nat × String) (List Instruction) :=
  match (instructions extended (text.length + 1)).run.run text.toList with
  | (.ok instructions, _) => sized instructions
  | (.error message, rest) => .error (text.length - rest.length, message)

/-! ### Running a script -/

/-- The state of an edit. -/
structure State where
  space : String
  hold : String
  /-- The lines to come, each with its end; the number of the line at hand, and its end. -/
  rest : List String
  number : Nat
  ending : String
  /-- What was written, latest first, and what is to be written after the line. -/
  output : List String
  queue : List String
  /-- The commands whose ranges are open, with the line on which they end if that is known. -/
  ranges : List (Nat × Option Nat)
  latest : Option Regex
  substituted : Bool
  /-- The status, once the script has been left. -/
  left : Option Nat

namespace State

/-- Writes a text. -/
def write (state : State) (text : String) : State := { state with output := text :: state.output }

/-- Writes the line at hand. -/
def print (state : State) : State := state.write (state.space ++ state.ending)

/-- Writes what is to be written after the line. -/
def flush (state : State) : State :=
  { state with output := state.queue ++ state.output, queue := [] }

/-- The next line taken up, if there is one. -/
def next? (state : State) : Option State :=
  match state.rest with
  | [] => none
  | line :: rest =>
    let ended := line.endsWith "\n"
    some { state with
      space := if ended then (line.dropEnd 1).toString else line
      ending := if ended then "\n" else ""
      rest := rest
      number := state.number + 1 }

/-- Whether a pattern is found in the line; it becomes the one that was used last. -/
def finds (state : State) (regex : Option Regex) (fold : Bool) : Bool × State :=
  match regex.or state.latest with
  | some regex => (Regex.occurs fold regex state.space, { state with latest := some regex })
  | none => (false, state)

/-- Whether an address is that of the line. -/
def isAt (state : State) : Address → Bool × State
  | .line n => (state.number = n, state)
  | .last => (state.rest.isEmpty, state)
  | .steps first step =>
    (if step = 0 then state.number = first
      else first ≤ state.number && (state.number - first) % step = 0, state)
  | .found regex fold => state.finds regex fold
  | .after _ => (false, state)

/-- Whether a command is for the line. A range goes on from a line that its first address fits to
one that its second address fits. -/
def selects (state : State) (index : Nat) (instruction : Instruction) : Bool × State :=
  match instruction.first, instruction.second with
  | none, _ => (true, state)
  | some first, none => state.isAt first
  | some first, some second =>
    let close (state : State) : State :=
      { state with ranges := state.ranges.filter fun entry => entry.1 ≠ index }
    match state.ranges.lookup index with
    | some (some last) =>
      if state.number < last then (true, state)
      else if state.number = last then (true, close state)
      else
        let state := close state
        state.isAt first
    | some none =>
      let (ends, state) := state.isAt second
      (true, if ends then close state else state)
    | none =>
      let (begins, state) := state.isAt first
      if !begins then (false, state)
      else
        let opened (last : Option Nat) : State :=
          { state with ranges := (index, last) :: state.ranges }
        match second with
        | .line n => (true, if n ≤ state.number then state else opened (some n))
        | .after n => (true, if n = 0 then state else opened (some (state.number + n)))
        | .last => (true, if state.rest.isEmpty then state else opened none)
        | _ => (true, opened none)

/-- The text of a replacement for a match. -/
def filled (text : Array Char) (first : Nat) (reached : Regex.Reached)
    (parts : List Replacement) : List Char :=
  parts.flatMap fun
    | .octet c => [c]
    | .group 0 => (text.extract first reached.position).toList
    | .group n =>
      match reached.groups.lookup n with
      | some (first, last) => (text.extract first last).toList
      | none => []

/-- A text with matches replaced, from the `wanted`-th on or only that one; at most `limit` of them
are looked for from a position on. -/
def replaced (text : Array Char) (fold : Bool) (regex : Regex) (parts : List Replacement)
    (all : Bool) (wanted : Nat) : Nat → Nat → Nat → List Char × Bool
  | 0, _, start => ((text.extract start text.size).toList, false)
  | limit + 1, count, start =>
    match Regex.search? text fold regex start with
    | none => ((text.extract start text.size).toList, false)
    | some (first, reached) =>
      let here := wanted ≤ count
      let before := (text.extract start first).toList
      let replacement :=
        if here then filled text first reached parts
        else (text.extract first reached.position).toList
      if here && !all then
        (before ++ replacement ++ (text.extract reached.position text.size).toList, true)
      else if reached.position = first then
        let kept := (text.extract first (first + 1)).toList
        if text.size ≤ first then (before ++ replacement, here)
        else
          let (after, changed) := replaced text fold regex parts all wanted limit (count + 1)
            (first + 1)
          (before ++ replacement ++ kept ++ after, here || changed)
      else
        let (after, changed) := replaced text fold regex parts all wanted limit (count + 1)
          reached.position
        (before ++ replacement ++ after, here || changed)

/-- What follows a command: the next one, another one, the end of the script, or its start without a
new line. -/
inductive Next where
  | on
  | jump (index : Nat)
  | finish (prints : Bool)
  | restart

/-- Does a command of one letter. -/
def simple (quiet : Bool) (state : State) : Char → State × Next
  | 'p' => (state.print, .on)
  | 'd' => (state, .finish false)
  | 'P' => (state.write (((state.space.splitOn "\n").headD "") ++ "\n"), .on)
  | 'D' =>
    match state.space.splitOn "\n" with
    | _ :: second :: rest =>
      ({ state with space := String.intercalate "\n" (second :: rest) }, .restart)
    | _ => (state, .finish false)
  | '=' => (state.write (toString state.number ++ "\n"), .on)
  | 'n' =>
    let printed := (if quiet then state else state.print).flush
    match printed.next? with
    | some next => (next, .on)
    | none => ({ state.flush with left := some 0 }, .finish true)
  | 'N' =>
    match state.flush.next? with
    | some next => ({ next with space := state.space ++ "\n" ++ next.space }, .on)
    | none => ({ state with left := some 0 }, .finish true)
  | 'h' => ({ state with hold := state.space }, .on)
  | 'H' => ({ state with hold := state.hold ++ "\n" ++ state.space }, .on)
  | 'g' => ({ state with space := state.hold }, .on)
  | 'G' => ({ state with space := state.space ++ "\n" ++ state.hold }, .on)
  | 'x' => ({ state with space := state.hold, hold := state.space }, .on)
  | _ => (state, .on)

/-- Does what a command does. -/
def perform (quiet : Bool) (program : List Instruction) (state : State) (index : Nat)
    (instruction : Instruction) : State × Next :=
  match instruction.verb with
  | .substitute regex fold parts all wanted print =>
    match regex.or state.latest with
    | none => (state, .on)
    | some regex =>
      let text := state.space.toList.toArray
      let (octets, changed) := replaced text fold regex parts all wanted (text.size + 2) 1 0
      let state := { state with latest := some regex }
      if changed then
        let state := { state with space := String.ofList octets, substituted := true }
        (if print then state.print else state, .on)
      else (state, .on)
  | .translate table =>
    ({ state with
      space := String.ofList (state.space.toList.map fun c => (table.lookup c).getD c) }, .on)
  | .append text => ({ state with queue := text :: state.queue }, .on)
  | .insert text => (state.write text, .on)
  | .change text =>
    let inside := instruction.second.isSome && (state.ranges.lookup index).isSome
    (if inside && !instruction.negated then state else state.write text, .finish false)
  | .quit prints status => ({ state with left := some status }, .finish prints)
  | .block _ | .label _ => (state, .on)
  | .branch only name =>
    if only && !state.substituted then (state, .on)
    else
      let state := if only then { state with substituted := false } else state
      let target := program.findIdx? fun other =>
        match other.verb with
        | .label label => name ≠ "" && label = name
        | _ => false
      (state, target.elim (.finish true) fun target => .jump target)
  | .simple letter => simple quiet state letter

/-- Runs the commands from one on, at most `limit` of them; whether the line is written then, or
nothing if the script begins again with the same line. -/
def cycle (quiet : Bool) (program : List Instruction) : Nat → Nat → State → State × Option Bool
  | 0, _, state => (state, some true)
  | limit + 1, index, state =>
    match program[index]? with
    | none => (state, some true)
    | some instruction =>
      let (selected, state) := state.selects index instruction
      if selected = instruction.negated then
        let skipped :=
          match instruction.verb with
          | .block size => size
          | _ => 0
        cycle quiet program limit (index + 1 + skipped) state
      else
        match perform quiet program state index instruction with
        | (state, .on) => cycle quiet program limit (index + 1) state
        | (state, .jump index) => cycle quiet program limit index state
        | (state, .finish prints) => (state, some prints)
        | (state, .restart) => (state, none)

/-- Edits the lines to come, at most `limit` times. -/
def run (quiet : Bool) (program : List Instruction) : Nat → State → State
  | 0, state => state
  | limit + 1, state =>
    match cycle quiet program 100000 0 { state with substituted := false } with
    | (state, none) => run quiet program limit state.flush
    | (state, some prints) =>
      let state := (if prints && !quiet then state.print else state).flush
      if state.left.isSome then state
      else
        match state.next? with
        | none => state
        | some state => run quiet program limit state

end State

/-- What a script makes of a text, and its status. -/
def edited (quiet : Bool) (program : List Instruction) (text : String) : String × Nat :=
  let lines := Octets.fullLines text
  match (State.mk "" "" lines 0 "" [] [] [] none false none).next? with
  | none => ("", 0)
  | some state =>
    let state := state.run quiet program (2 * lines.length + 1000)
    (String.join state.output.reverse, state.left.getD 0)

end Edit

/-- Edits what it reads by a script. -/
def sed : Tool :=
  withOptions "sed" ⟨['n', 'E', 'r', 's', 'u', 'z', 'i'], ['e', 'f'], [("quiet", 'n'),
      ("silent", 'n'), ("regexp-extended", 'E'), ("expression", 'e'), ("in-place", 'i')]⟩ 1
    fun arguments => do
      let (scripts, paths) :=
        match arguments.values 'e', arguments.operands with
        | [], script :: paths => ([script], paths)
        | scripts, paths => (scripts, paths)
      if scripts.isEmpty then
        complain "Usage: sed [OPTION]... \x7bscript-only-if-no-other-script\x7d [input-file]...\n"
        return 1
      match Edit.ofText (arguments.isGiven 'E' || arguments.isGiven 'r')
          (String.intercalate "\n" scripts) with
      | .error (position, message) => do
        grumble "sed" ("-e expression #1, char " ++ toString position ++ ": " ++ message)
        return 1
      | .ok program =>
        let quiet := arguments.isGiven 'n'
        let (read, status) ← contents "sed"
          (fun path reason => "can't read " ++ path ++ ": " ++ reason) 2 paths
        if arguments.isGiven 'i' then
          read.forM fun (path, text) => do
            let _ ← writeFile path (Edit.edited quiet program text).1
          return status
        else
          let (text, left) := Edit.edited quiet program (String.join (read.map Prod.snd))
          say text
          return max status left

end Tool

end Shell

end RecordWatch
