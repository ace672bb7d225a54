import RecordWatch.Shell.Condition
import RecordWatch.Shell.Expansion
import RecordWatch.Shell.Format
import RecordWatch.Shell.Signal

/-! The builtins of the shell that run no commands. Each takes arguments and gives its status. -/

namespace RecordWatch

namespace Shell

/-- A builtin: a step on its arguments that gives its status. -/
abbrev Builtin := List String → Step Nat

namespace Builtin

open Process

/-! ### Arguments -/

/-- Refuses an option. -/
def illegalOption {α : Type} (option : Char) : Step α :=
  fail ("Illegal option -" ++ String.singleton option)

/-- The options that arguments begin with, each a letter of `allowed`, and the other arguments. -/
def options (allowed : List Char) : List String → Step (List Char × List String)
  | [] => return ([], [])
  | argument :: rest =>
    match argument.toList with
    | ['-', '-'] => return ([], rest)
    | '-' :: c :: letters => do
      match (c :: letters).find? fun letter => !allowed.contains letter with
      | some letter => illegalOption letter
      | none =>
        let (others, rest) ← options allowed rest
        return (c :: letters ++ others, rest)
    | _ => return ([], argument :: rest)

/-- The number of an argument. -/
def number (argument : String) : Step Nat :=
  match decimal? argument with
  | some n => return n
  | none => fail ("Illegal number: " ++ argument)

/-- The name and the value of an argument that may hold both. -/
def nameAndValue (argument : String) : String × Option String :=
  let name := String.ofList (argument.toList.takeWhile (· ≠ '='))
  match argument.toList.dropWhile (· ≠ '=') with
  | '=' :: value => (name, some (String.ofList value))
  | _ => (name, none)

/-- Refuses what is not the name of a variable. -/
def checkName (name : String) : Step Unit :=
  if isName name then return () else fail (name ++ ": bad variable name")

/-- A text between single quotes as a shell reads it. -/
def quoted (text : String) : String :=
  "'" ++ String.intercalate "'\"'\"'" (text.splitOn "'") ++ "'"

/-! ### Control -/

/-- The number of loops that an argument names, at most those that there are. -/
def levels (arguments : List String) : Step Nat := do
  let n ← arguments.head?.elim (pure 1) number
  if n = 0 then fail ("Illegal number: " ++ arguments.headD "")
  return min n (← get).loops

/-- Leaves loops. -/
def leaveLoops : Builtin := fun arguments => do
  let n ← levels arguments
  if n = 0 then return 0
  else
    setStatus 0
    throw (.leave n)

/-- Begins a loop again. -/
def beginAgain : Builtin := fun arguments => do
  let n ← levels arguments
  if n = 0 then return 0
  else
    setStatus 0
    throw (.again n)

/-- Returns from a function or a script. -/
def giveBack : Builtin := fun arguments => do
  match arguments with
  | [] => throw .returned
  | argument :: _ =>
    setStatus (← number argument)
    throw .returned

/-- Leaves the shell. -/
def exit : Builtin := fun arguments => do
  let p ← get
  match arguments with
  | [] => setStatus (p.leaving.getD p.status)
  | argument :: _ => setStatus (← number argument)
  throw .exit

/-- Drops arguments. -/
def shift : Builtin := fun arguments => do
  let n ← arguments.head?.elim (pure 1) number
  let p ← get
  if p.arguments.length < n then fail "can't shift that many"
  set { p with arguments := p.arguments.drop n, optionOffset := 0 }
  return 0

/-! ### Options of the shell -/

/-- The options of the shell by their long names, in the order in which they are listed. -/
def optionNames : List (String × Char) :=
  [("errexit", 'e'), ("noglob", 'f'), ("ignoreeof", 'I'), ("interactive", 'i'), ("monitor", 'm'),
    ("noexec", 'n'), ("stdin", 's'), ("xtrace", 'x'), ("verbose", 'v'), ("vi", 'V'),
    ("emacs", 'E'), ("noclobber", 'C'), ("allexport", 'a'), ("notify", 'b'), ("nounset", 'u'),
    ("privileged", 'p'), ("nolog", 'L'), ("debug", 'D')]

/-- Sets an option or takes it back. -/
def setOption (on : Bool) (letter : Char) : Step Unit :=
  modify fun p =>
    let others := p.options.filter (· ≠ letter)
    { p with options := if on then letter :: others else others }

/-- Sets options by letters or takes them back. -/
def setLetters (on : Bool) (letters : List Char) : Step Unit :=
  letters.forM fun letter =>
    if letter ≠ 'L' && letter ≠ 'D' && (optionNames.map Prod.snd).contains letter then
      setOption on letter
    else illegalOption letter

/-- Lists the options. -/
def listOptions (on : Bool) : Step Unit := do
  let p ← get
  if on then
    say "Current option settings\n"
    optionNames.forM fun (name, letter) =>
      let padded := String.ofList (Directive.padded true 16 name.toList)
      say (padded ++ if p.isSet letter then "on\n" else "off\n")
  else
    optionNames.forM fun (name, letter) =>
      say ("set " ++ (if p.isSet letter then "-o " else "+o ") ++ name ++ "\n")

/-- Sets the options that arguments begin with. The arguments that are left, if the arguments of the
script shall become them. -/
def takeOptions : List String → Step (Option (List String))
  | [] => return none
  | argument :: rest => do
    match argument.toList with
    | ['-'] =>
      setLetters false ['x', 'v']
      return if rest.isEmpty then none else some rest
    | ['-', '-'] => return some rest
    | ['-', 'o'] | ['+', 'o'] =>
      let on := argument = "-o"
      match rest with
      | [] =>
        listOptions on
        return none
      | name :: rest =>
        match optionNames.lookup name with
        | some letter =>
          setOption on letter
          takeOptions rest
        | none => fail ("Illegal option -o " ++ name)
    | '-' :: letters =>
      setLetters true letters
      takeOptions rest
    | '+' :: letters =>
      setLetters false letters
      takeOptions rest
    | _ => return some (argument :: rest)

/-- Lists the variables, sets options or replaces the arguments. -/
def setShell : Builtin := fun arguments => do
  if arguments.isEmpty then
    (← get).bindings.forM fun (name, binding) =>
      binding.value.forM fun value => say (name ++ "=" ++ quoted value ++ "\n")
  else
    match ← takeOptions arguments with
    | some arguments => modify fun p => { p with arguments, optionOffset := 0 }
    | none => pure ()
  return 0

/-! ### Variables -/

/-- Lists the variables that have a mark. -/
def listMarked (word : String) (marked : Binding → Bool) : Step Unit := do
  (← get).bindings.forM fun (name, binding) => do
    if marked binding then
      say (word ++ " " ++ name ++ binding.value.elim "" (fun value => "=" ++ quoted value) ++ "\n")

/-- Marks variables, which may be bound as well. -/
def mark (word : String) (marked : Binding → Bool) (change : Binding → Binding) : Builtin :=
  fun arguments => do
    let (letters, arguments) ← options ['p'] arguments
    if arguments.isEmpty || letters.contains 'p' then listMarked word marked
    else
      arguments.forM fun argument => do
        let (name, value) := nameAndValue argument
        checkName name
        value.forM fun value => assign name value
        modify fun p =>
          let old := (p.bindings.get? name).getD ⟨none, false, false⟩
          { p with bindings := p.bindings.put name (change old) }
    return 0

/-- Marks variables as ones that programs get. -/
def exportAll : Builtin :=
  mark "export" Binding.exported fun binding => { binding with exported := true }

/-- Marks variables as ones that never change. -/
def readonlyAll : Builtin :=
  mark "readonly" Binding.constant fun binding => { binding with constant := true }

/-- Forgets variables or functions. -/
def unset : Builtin := fun arguments => do
  let (letters, names) ← options ['f', 'v'] arguments
  names.forM fun name => do
    let p ← get
    if letters.getLast? = some 'f' then
      set { p with functions := p.functions.filter fun entry => entry.1 ≠ name }
    else
      checkName name
      if (p.bindings.get? name).any Binding.constant then fail (name ++ ": is read only")
      set { p with bindings := p.bindings.filter fun entry => entry.1 ≠ name }
  return 0

/-- Hides variables until the function around returns. -/
def hide : Builtin := fun arguments => do
  if (← get).hidden.isEmpty then fail "not in a function"
  arguments.forM fun argument => do
    let (name, value) := nameAndValue argument
    checkName name
    let p ← get
    match p.hidden with
    | [] => pure ()
    | scope :: outer =>
      let scope := if (scope.get? name).isSome then scope else scope.put name (p.bindings.get? name)
      set { p with hidden := scope :: outer }
      value.forM fun value => assign name value
  return 0

/-! ### Output -/

/-- Writes its arguments, with escapes. -/
def echo : Builtin := fun arguments => do
  let (quiet, words) :=
    match arguments with
    | "-n" :: words => (true, words)
    | words => (false, words)
  let (text, stopped) := Escape.text (String.intercalate " " words)
  if ← write 1 (if stopped || quiet then text else text ++ "\n") then return 0
  else
    report "I/O error"
    return 1

/-- Writes its arguments with a format. What was written comes out after all complaints. -/
def printf : Builtin := fun arguments => do
  let (_, arguments) ← options [] arguments
  match arguments with
  | [] => fail "usage: printf format [arg ...]"
  | format :: arguments =>
    let printed := Printed.ofFormat format arguments
    printed.complaints.reverse.forM report
    let result ← outcome (printed.fault.forM fail)
    say (String.ofList printed.output.reverse)
    match result with
    | .error interrupt => throw interrupt
    | .ok () => return if printed.complaints.isEmpty then 0 else 1

/-- Checks a condition. -/
def test (name : String) : Builtin := fun arguments => do
  if name = "[" && arguments.getLast? ≠ some "]" then fail "missing ]"
  let words := if name = "[" then arguments.dropLast else arguments
  match Condition.holds (← get) 4 words with
  | .ok holds => return if holds then 0 else 1
  | .error message => fail message

/-! ### Directories -/

/-- A path without the parts that lead nowhere. -/
def cleaned (path : String) : String :=
  let parts := (Path.pieces path).foldl (fun (parts : List String) part =>
    if part = "" ∨ part = "." then parts
    else if part = ".." then parts.drop 1
    else part :: parts) []
  "/" ++ String.intercalate "/" parts.reverse

/-- Changes the directory. -/
def changeDirectory : Builtin := fun arguments => do
  let (_, arguments) ← options ['L', 'P'] arguments
  let p ← get
  let home := (p.value? "HOME").getD ""
  let (target, shown) :=
    match arguments with
    | [] => (home, false)
    | "-" :: _ => ((p.value? "OLDPWD").getD p.directory, true)
    | target :: _ => (target, false)
  if target = "" then return 0
  match p.nodeAt target with
  | .ok (.directory _) =>
    let directory := cleaned (Path.join p.directory target)
    set { p with directory }
    assign "OLDPWD" p.directory
    assign "PWD" directory
    if shown then say (directory ++ "\n")
    return 0
  | _ => fail ("can't cd to " ++ target)

/-- Says which directory it is. -/
def sayDirectory : Builtin := fun _ => do
  say ((← get).directory ++ "\n")
  return 0

/-! ### Input -/

/-- A line read so far, its octets latest first, with those after a backslash marked. -/
structure LineDraft where
  octets : List Marked
  escaped : Bool
  ended : Bool

/-- The line after one more octet. -/
def LineDraft.step (raw : Bool) (draft : LineDraft) (c : Char) : LineDraft :=
  if draft.ended || c = '\x00' then draft
  else if draft.escaped then
    if c = '\n' then { draft with escaped := false }
    else { draft with octets := ⟨c, true⟩ :: draft.octets, escaped := false }
  else if c = '\\' && !raw then { draft with escaped := true }
  else if c = '\n' then { draft with ended := true }
  else { draft with octets := ⟨c, false⟩ :: draft.octets }

/-- Takes octets up to the end of a line, over at most `limit` lines that a backslash joins. -/
def takeLine (raw : Bool) : Nat → LineDraft → Step LineDraft
  | 0, draft => return draft
  | limit + 1, draft => do
    match ← takeUntil 0 fun b => b = 10 with
    | .error _ => return draft
    | .ok text =>
      let draft := text.toList.foldl (LineDraft.step raw) draft
      if draft.ended || text = "" || !text.endsWith "\n" then return draft
      else takeLine raw limit draft

/-- Whether an octet that is not quoted separates fields. -/
def separates (separators : String) (m : Marked) : Bool :=
  !m.quoted && separators.contains m.octet

/-- Whether an octet separates fields and is white space. -/
def separatesBlank (separators : String) (m : Marked) : Bool :=
  separates separators m && isSpace m.octet

/-- A line without the separator that it begins with: white space with at most one other octet. -/
def afterSeparator (separators : String) (octets : List Marked) : List Marked :=
  let rest := octets.dropWhile (separatesBlank separators)
  match rest with
  | m :: more =>
    if separates separators m then more.dropWhile (separatesBlank separators) else rest
  | [] => []

/-- A line without the white space at its end. Octets after a backslash do not end that: they are
only kept where no white space comes before them. -/
def withoutEnd (separators : String) (octets : List Marked) : List Marked :=
  let isEnd (m : Marked) : Bool := m.quoted || separatesBlank separators m
  let kept := (octets.reverse.dropWhile isEnd).reverse
  kept ++ (octets.drop kept.length).takeWhile Marked.quoted

/-- The fields of a line, of which the last of `count` takes all that is left. -/
def lineFields (separators : String) : Nat → List Marked → List String
  | 0, _ => []
  | 1, octets =>
    let field := octets.takeWhile fun m => !separates separators m
    let rest := octets.dropWhile fun m => !separates separators m
    if (afterSeparator separators rest).isEmpty then [Marked.text field]
    else [Marked.text (withoutEnd separators octets)]
  | count + 1, octets =>
    let field := octets.takeWhile fun m => !separates separators m
    let rest := octets.dropWhile fun m => !separates separators m
    Marked.text field :: lineFields separators count (afterSeparator separators rest)

/-- Reads a line into variables. -/
def read : Builtin := fun arguments => do
  let (letters, names) ← options ['r', 'p'] arguments
  let names := if letters.contains 'p' then names.drop 1 else names
  if names.isEmpty then fail "arg count"
  let line ← takeLine (letters.contains 'r') 1000 ⟨[], false, false⟩
  let separators := (← get).separators
  let octets := line.octets.reverse.dropWhile (separatesBlank separators)
  let fields := lineFields separators names.length octets
  (names.zip fields).forM fun (name, field) => do
    checkName name
    assign name field
  return if line.ended then 0 else 1

/-! ### Options of scripts -/

/-- Takes the next option of a script. -/
def getopts : Builtin := fun arguments => do
  match arguments with
  | allowed :: name :: given => do
    let p ← get
    let words := if given.isEmpty then p.arguments else given
    let index := max 1 ((decimal? ((p.value? "OPTIND").getD "1")).getD 1)
    let silent := allowed.startsWith ":"
    let current := ((words[index - 1 - (if p.optionOffset = 0 then 0 else 1)]?).getD "").toList
    let fresh := p.optionOffset = 0 || current.length ≤ p.optionOffset
    let word := (words[index - 1]?).getD ""
    if fresh && (!word.startsWith "-" || word = "-" || word = "--") then
      checkName name
      assign name "?"
      assign "OPTIND" (toString (if word = "--" then index + 1 else index))
      return 1
    let (octets, index) :=
      if fresh then (word.toList.drop 1, index + 1) else (current.drop p.optionOffset, index)
    let offset := if fresh then 1 else p.optionOffset
    let c := octets.headD '?'
    let finish (value : String) (index offset : Nat) : Step Nat := do
      checkName name
      assign name value
      assign "OPTIND" (toString index)
      modify fun p => { p with optionOffset := offset }
      return 0
    match (allowed.toList.dropWhile (· ≠ c)), c with
    | [], _ | _, ':' => do
      if silent then assign "OPTARG" (String.singleton c)
      else
        complain ("Illegal option -" ++ String.singleton c ++ "\n")
        modify fun p =>
          { p with bindings := p.bindings.filter fun entry => entry.1 ≠ "OPTARG" }
      finish "?" index (if octets.length ≤ 1 then 0 else offset + 1)
    | _ :: ':' :: _, _ => do
      match octets.drop 1, words[index - 1]? with
      | [], some argument => do
        assign "OPTARG" argument
        finish (String.singleton c) (index + 1) 0
      | [], none => do
        if silent then assign "OPTARG" (String.singleton c)
        else
          complain ("No arg for -" ++ String.singleton c ++ " option\n")
          modify fun p =>
            { p with bindings := p.bindings.filter fun entry => entry.1 ≠ "OPTARG" }
        finish (if silent then ":" else "?") index 0
      | argument, _ => do
        assign "OPTARG" (String.ofList argument)
        finish (String.singleton c) index 0
    | _ :: _, _ => do
      assign "OPTARG" ""
      finish (String.singleton c) index (if octets.length ≤ 1 then 0 else offset + 1)
  | _ => fail "Usage: getopts optstring var [arg]"

/-! ### Signals and jobs -/

/-- The usage of the builtin that sends signals. -/
def killUsage : String :=
  "Usage: kill [-s sigspec | -signum | -sigspec] [pid | job]... or\nkill -l [exitstatus]"

/-- Sends a signal to processes. -/
def send (signal : Nat) (targets : List String) : Step Nat := do
  if targets.isEmpty then fail killUsage
  targets.foldlM (fun status target => do
    let n ← number target
    let p ← get
    if p.world.alive.contains n then
      if signal ≠ 0 then
        set { p with world := { p.world with sent := (n, signal) :: p.world.sent } }
      return status
    else if p.jobs.any fun job => job.id = n then
      let jobs := p.jobs.map fun job =>
        if job.id = n && p.world.elapsed < job.finished && signal ≠ 0 then
          { job with finished := p.world.elapsed, status := .signal signal }
        else job
      set { p with jobs }
      return status
    else
      report "No such process\n"
      return 1) 0

/-- Sends signals, or names them. -/
def kill : Builtin := fun arguments => do
  match arguments with
  | [] => fail killUsage
  | "-l" :: [] =>
    say (Octets.ofLines (ExitStatus.signalNames))
    return 0
  | "-l" :: argument :: _ =>
    let n ← number argument
    say (Signal.name (if n > 128 then n - 128 else n) ++ "\n")
    return 0
  | "-s" :: name :: targets =>
    match Signal.ofText? name with
    | some signal => send signal targets
    | none => fail ("invalid signal number or name: " ++ name)
  | "--" :: targets => send 15 targets
  | argument :: targets =>
    match argument.toList with
    | '-' :: c :: name =>
      match Signal.ofText? (String.ofList (c :: name)) with
      | some signal => send signal targets
      | none => illegalOption c
    | _ => send 15 (argument :: targets)

/-- Says what is done on signals, or sets it. -/
def trap : Builtin := fun arguments => do
  let (_, arguments) ← match arguments with
    | "-" :: _ => pure ([], arguments)
    | _ => options [] arguments
  let setAll (action : Option String) (signals : List String) : Step Nat :=
    signals.foldlM (fun status signal =>
      if status ≠ 0 then return status
      else
        match Signal.ofText? signal with
        | some n => do
          modify fun p =>
            let others := p.traps.filter fun entry => entry.1 ≠ n
            { p with traps := others ++ (action.map fun action => (n, action)).toList }
          return 0
        | none => do
          complain ("trap: " ++ signal ++ ": bad trap\n")
          return 1) 0
  match arguments with
  | [] =>
    let traps := (← get).traps.mergeSort fun a b => decide (a.1 ≤ b.1)
    traps.forM fun (n, action) => say ("trap -- " ++ quoted action ++ " " ++ Signal.name n ++ "\n")
    return 0
  | [signal] => setAll none [signal]
  | "-" :: signals => setAll none signals
  | action :: signals => setAll (some action) signals

/-- The status of another process, as this one sees it. It says so if a signal killed the other. -/
def seenStatus : ExitStatus → Step Nat
  | .code n => return n
  | .signal n => do
    if !Signal.isQuiet n then complain (Signal.description n ++ "\n")
    return 128 + n

/-- Waits for commands in the background. -/
def waitJobs : Builtin := fun arguments => do
  let finish (job : Job) : Step Unit := do
    wait (job.finished - (← get).world.elapsed)
  match arguments with
  | [] =>
    (← get).jobs.reverse.forM fun job => do
      finish job
      let _ ← seenStatus job.status
    modify fun p => { p with jobs := [] }
    return 0
  | ids =>
    ids.foldlM (fun _ id => do
      let n ← number id
      match (← get).jobs.find? fun job => job.id = n with
      | some job =>
        finish job
        seenStatus job.status
      | none => return 127) 0

/-- Says or sets which rights new files do not get. -/
def umask : Builtin := fun arguments => do
  match arguments with
  | [] =>
    let digits := Nat.toDigits 8 (← get).mask
    say (String.ofList (List.replicate (4 - digits.length) '0' ++ digits) ++ "\n")
    return 0
  | argument :: _ =>
    if argument ≠ "" && argument.all fun c => '0' ≤ c && c ≤ '7' then
      modify fun p => { p with mask := Expression.digitsValue 8 argument.toList % 512 }
      return 0
    else fail ("Illegal mode: " ++ argument)

end Builtin

end Shell

end RecordWatch
