import RecordWatch.Shell.Builtin
import RecordWatch.Shell.Reader
import RecordWatch.Shell.Redirect

/-! Running the commands of a script. -/

namespace RecordWatch

namespace Shell

namespace Process

/-- The path of the program with a name: one with a slash is a path, another is looked for in the
directories of the search path. -/
def program? (p : Process) (name : String) : Option String :=
  if name.contains '/' then some name
  else
    (((p.value? "PATH").getD "").splitOn ":").findSome? fun directory =>
      let path := if directory = "" then name else Path.join directory name
      match p.nodeAt path with
      | .ok (.file _ true _) => some path
      | _ => none

end Process

namespace Evaluation

open Process

/-! ### Signals and the end of a shell -/

/-- Does what is to be done on a signal. -/
def receive (runner : Runner) (signal : Nat) : Step Unit := do
  let p ← get
  let action? := if Signal.irresistible.contains signal then none else p.traps.lookup signal
  match action? with
  | some "" => pure ()
  | some action =>
    runner.text false action
    setStatus p.status
  | none =>
    if Signal.ignored.contains signal then pure ()
    else if Signal.stopping.contains signal then throw .overdue
    else throw (.killed signal)

/-- Does what is to be done on the signals that have come. -/
def settle (runner : Runner) : Step Unit := do
  let p ← get
  let mine := p.world.sent.filter fun entry => entry.1 = p.id
  if mine.isEmpty then pure ()
  else
    let others := p.world.sent.filter fun entry => entry.1 ≠ p.id
    set { p with world := { p.world with sent := others } }
    mine.reverse.forM fun (_, signal) => receive runner signal

/-- Runs the action of the end of a shell. The status stays as it was unless the action leaves the
shell with another. -/
def conclude (runner : Runner) : Step Unit := do
  let p ← get
  match p.traps.lookup 0 with
  | none => pure ()
  | some action =>
    let status := p.leaving.getD p.status
    set { p with
      traps := p.traps.filter fun entry => entry.1 ≠ 0
      leaving := some status
      builtin := none
      loops := 0 }
    match ← outcome (runner.text false action) with
    | .error .exit | .error .failure => pure ()
    | .error (.killed signal) => throw (.killed signal)
    | .error .overdue => throw .overdue
    | _ => setStatus status

/-- Runs a step as all that a shell does. -/
def toEnd (runner : Runner) (step : Step Unit) : Step Unit := do
  match ← outcome (do step; settle runner) with
  | .error (.killed signal) => throw (.killed signal)
  | .error .overdue => throw .overdue
  | _ => conclude runner

/-- The status that a process leaves behind. -/
def statusOf (result : Except Interrupt Unit) (after : Process) : ExitStatus :=
  match result with
  | .error (.killed signal) => .signal signal
  | _ => .code (after.status % 256)

/-- Takes over the status of another process. -/
def takeStatus (status : ExitStatus) : Step Unit := do
  setStatus (← Builtin.seenStatus status)

/-- Runs a step in a shell of its own and takes over its status. -/
def inSubshell (runner : Runner) (step : Step Unit) : Step Unit := do
  let (result, after) ← apart (toEnd runner step)
  takeStatus (statusOf result after)

/-- Leaves the shell if a failure ends it and is not tested. -/
def checkFailure (tested : Bool) : Step Unit := do
  let p ← get
  if p.isSet 'e' && !tested && p.status ≠ 0 then throw .exit

/-! ### Texts -/

/-- Runs the commands of the lines of a script, at most `limit` of them; whether there were any. -/
def lines (runner : Runner) (tested : Bool) : Nat → Input → Step Bool
  | 0, _ => return false
  | limit + 1, input =>
    if input.rest.isEmpty then return false
    else
      match nextLine.run input with
      | .error ⟨line, reason⟩ => do
        modify fun p => { p with line }
        fail ("Syntax error: " ++ reason)
      | .ok (commands, rest) => do
        let read := input.rest.take (input.rest.length - rest.rest.length)
        if (← get).isSet 'v' then complain (String.ofList read)
        commands.forM (runner.command tested)
        let more ← lines runner tested limit rest
        return more || !commands.isEmpty

/-- Runs the commands of a text. -/
def evaluateText (runner : Runner) (tested : Bool) (text : String) : Step Unit := do
  if !(← lines runner tested (text.length + 1) (Input.ofText text)) then setStatus 0

/-! ### Builtins that run commands -/

/-- Runs its arguments as commands. -/
def eval (runner : Runner) (tested : Bool) : Builtin := fun arguments => do
  runner.text tested (String.intercalate " " arguments)
  return (← get).status

/-- Runs the commands of a file. -/
def dot (runner : Runner) : Builtin := fun arguments => do
  match arguments with
  | [] => return 0
  | path :: _ =>
    let p ← get
    let found :=
      if path.contains '/' then some path
      else
        (((p.value? "PATH").getD "").splitOn ":").findSome? fun directory =>
          let full := if directory = "" then path else Path.join directory path
          if (p.readFile full).toBool then some full else none
    match found.map fun full => p.readFile full with
    | some (.ok text) =>
      match ← outcome (runner.text false text) with
      | .ok () | .error .returned => return (← get).status
      | .error interrupt => throw interrupt
    | some (.error _) => fail ("cannot open " ++ path ++ ": No such file")
    | none => fail (path ++ ": not found")

/-- The builtins that a shell has. -/
def builtin? (runner : Runner) (tested : Bool) : String → Option Builtin
  | ":" | "true" => some fun _ => return 0
  | "false" => some fun _ => return 1
  | "." => some (dot runner)
  | "[" => some (Builtin.test "[")
  | "break" => some Builtin.leaveLoops
  | "cd" | "chdir" => some Builtin.changeDirectory
  | "continue" => some Builtin.beginAgain
  | "echo" => some Builtin.echo
  | "eval" => some (eval runner tested)
  | "exit" => some Builtin.exit
  | "export" => some Builtin.exportAll
  | "getopts" => some Builtin.getopts
  | "kill" => some Builtin.kill
  | "local" => some Builtin.hide
  | "printf" => some Builtin.printf
  | "pwd" => some Builtin.sayDirectory
  | "read" => some Builtin.read
  | "readonly" => some Builtin.readonlyAll
  | "return" => some Builtin.giveBack
  | "set" => some Builtin.setShell
  | "shift" => some Builtin.shift
  | "test" => some (Builtin.test "test")
  | "times" => some fun _ => do
    say "0m0.000000s 0m0.000000s\n0m0.000000s 0m0.000000s\n"
    return 0
  | "trap" => some Builtin.trap
  | "ulimit" => some fun _ => do
    say "unlimited\n"
    return 0
  | "umask" => some Builtin.umask
  | "unset" => some Builtin.unset
  | "wait" => some Builtin.waitJobs
  | "alias" | "bg" | "hash" | "jobs" | "unalias" => some fun _ => return 0
  | _ => none

/-- Whether a shell has a builtin, `command`, `exec` and `type` included. -/
def isBuiltin (runner : Runner) (name : String) : Bool :=
  (builtin? runner false name).isSome || ["command", "exec", "type"].contains name

/-- Says what a command is: briefly, as `command -v` does, or in words. -/
def describe (runner : Runner) (brief : Bool) (name : String) : Step Nat := do
  let p ← get
  let said (short long : String) : Step Nat := do
    say ((if brief then short else name ++ long) ++ "\n")
    return 0
  if keywords.contains name then said name " is a shell keyword"
  else if (p.functions.get? name).isSome then said name " is a shell function"
  else if isBuiltin runner name then
    said name
      (if Grammar.specialBuiltins.contains name then " is a special shell builtin"
        else " is a shell builtin")
  else
    match (p.program? name).filter fun path => (p.nodeAt path).toBool with
    | some path => said path (" is " ++ path)
    | none =>
      if !brief then say (name ++ ": not found\n")
      return 127

/-! ### Simple commands -/

/-- The builtins whose arguments may be assignments, which are not split. -/
def declaring : List String := ["export", "readonly", "local", "alias"]

/-- The fields of the words of a command. -/
def argumentsOf (runner : Runner) (words : List Word) : Step (List String) :=
  words.foldlM (fun fields word => do
    let declares := (fields.find? (· ≠ "command")).any declaring.contains
    match (if declares then Grammar.assignment? word else none) with
    | some (name, value) =>
      return fields ++ [name ++ "=" ++ (← Expansion.assigned runner value)]
    | none => return fields ++ (← Expansion.fields runner word)) []

/-- Writes a command before it runs, if the shell is asked to. -/
def trace (before : List (Nat × Nat)) (assigned : List (String × String))
    (fields : List String) : Step Unit := do
  let p ← get
  if p.isSet 'x' then
    let words := (assigned.map fun (name, value) => name ++ "=" ++ value) ++ fields
    let line := (p.value? "PS4").getD "" ++ String.intercalate " " words ++ "\n"
    Process.around (fun p => { p with descriptors := before })
      (fun q => { q with descriptors := p.descriptors }) (complain line)

/-- Binds variables one after the other. -/
def assignAll (runner : Runner) (assignments : List (String × Word)) :
    Step (List (String × String)) :=
  assignments.mapM fun (name, word) => do
    let value ← Expansion.assigned runner word
    assign name value
    return (name, value)

/-- Runs a step with variables bound that programs get, and only for that step. -/
def withAssignments (runner : Runner) (assignments : List (String × Word))
    (step : List (String × String) → Step Unit) : Step Unit := do
  let p ← get
  let old := assignments.map fun (name, _) => (name, p.bindings.get? name)
  let restore (q : Process) : Process :=
    { q with
      bindings := old.foldl (fun bindings (name, binding) => restored bindings name binding)
        q.bindings }
  Process.around id (if assignments.isEmpty then id else restore) do
    let assigned ← assignments.mapM fun (name, word) => do
      let value ← Expansion.assigned runner word
      assign name value
      exportVariable name
      return (name, value)
    step assigned

/-- Calls a builtin. Only a special one that fails takes the shell with it. -/
def callBuiltin (name : String) (special : Bool) (builtin : Builtin) (arguments : List String) :
    Step Unit := do
  let before := (← get).builtin
  let named := Process.around (fun p => { p with builtin := some name })
    (fun p => { p with builtin := before }) (builtin arguments)
  match ← outcome named with
  | .ok status => setStatus status
  | .error .failure => if special then throw .failure
  | .error interrupt => throw interrupt

/-- Calls a function. -/
def callFunction (runner : Runner) (tested : Bool) (body : Command) (arguments : List String) :
    Step Unit := do
  let p ← get
  set { p with arguments, hidden := [] :: p.hidden, loops := 0, optionOffset := 0 }
  let result ← outcome (runner.command tested body)
  modify fun q =>
    let scope := q.hidden.headD []
    { q with
      arguments := p.arguments
      hidden := p.hidden
      loops := p.loops
      optionOffset := p.optionOffset
      bindings := scope.foldl (fun bindings (name, binding) => restored bindings name binding)
        q.bindings }
  match result with
  | .ok () | .error .returned => pure ()
  | .error interrupt => throw interrupt

/-- Runs a program and takes over its status; the status of one that does not start is given. -/
def startProgram (runner : Runner) (name : String) (arguments : List String) :
    Step (Except Nat ExitStatus) := do
  let refuse (why : String) (status : Nat) : Step (Except Nat ExitStatus) := do
    report (name ++ ": " ++ why)
    return .error status
  match (← get).program? name with
  | none => refuse "not found" 127
  | some path =>
    match ← runner.program path arguments with
    | .ok status => return .ok status
    | .error .missing => refuse "not found" 127
    | .error .denied => refuse "Permission denied" 126
    | .error .unknownFormat =>
      match ← runner.program "/bin/sh" (path :: arguments) with
      | .ok status => return .ok status
      | .error _ => refuse "not found" 127

/-- Runs a program. -/
def callProgram (runner : Runner) (name : String) (arguments : List String) : Step Unit := do
  match ← startProgram runner name arguments with
  | .ok status => takeStatus status
  | .error status => setStatus status

/-- Runs a program in the place of the shell. -/
def exec (runner : Runner) (name : String) (arguments : List String) : Step Unit := do
  modify fun p => { p with builtin := some "exec" }
  match ← startProgram runner name arguments with
  | .ok (.code n) =>
    modify fun p => { p with status := n, traps := [] }
    throw .exit
  | .ok (.signal n) => throw (.killed n)
  | .error status =>
    setStatus status
    throw .exit

/-- Runs the command of some fields; `plain` if functions are passed over and no builtin is
special. -/
def call (runner : Runner) (tested plain : Bool) (name : String) (arguments : List String) :
    Step Unit := do
  let functions := (← get).functions
  match (if plain then none else functions.get? name), builtin? runner tested name with
  | some body, _ => callFunction runner tested body arguments
  | none, some builtin =>
    callBuiltin name (!plain && Grammar.specialBuiltins.contains name) builtin arguments
  | none, none =>
    if name = "type" then
      let statuses ← arguments.mapM (describe runner false)
      setStatus (statuses.foldl max 0)
    else callProgram runner name arguments

/-- The fields after `command` and its options, with a step instead of them if the options ask for
one. -/
def commandOptions (runner : Runner) : List String → List String × Option (Step Unit)
  | "-p" :: rest => commandOptions runner rest
  | "--" :: rest => (rest, none)
  | "-v" :: name :: _ => ([], some (do setStatus (← describe runner true name)))
  | "-V" :: name :: _ => ([], some (do setStatus (← describe runner false name)))
  | "-v" :: [] | "-V" :: [] => ([], some (setStatus 0))
  | rest => (rest, none)

/-- Runs the command of some fields, at most `limit` times after another `command`. -/
def callFields (runner : Runner) (tested : Bool) : Nat → Bool → List String → Step Unit
  | 0, _, _ => pure ()
  | _, _, [] => setStatus 0
  | limit + 1, plain, name :: arguments => do
    if name = "command" && (plain || ((← get).functions.get? name).isNone) then
      match commandOptions runner arguments with
      | (_, some step) => step
      | (rest, none) => callFields runner tested limit true rest
    else if name = "exec" then
      match arguments with
      | [] => setStatus 0
      | program :: arguments => exec runner program arguments
    else call runner tested plain name arguments

/-- A simple command without words: its variables are bound. -/
def bind (runner : Runner) (assignments : List (String × Word)) (leads : List Lead) :
    Step Unit := do
  let before := (← get).descriptors
  let body : Step Unit := do
    let assigned ← assignAll runner assignments
    trace before assigned []
    setStatus (← get).substituted
  Lead.around leads (pure ()) body

/-- A simple command. -/
def simple (runner : Runner) (tested : Bool) (line : Nat) (assignments : List (String × Word))
    (words : List Word) (redirections : List Redirection) : Step Unit := do
  modify fun p => { p with line, substituted := 0 }
  let fields ← argumentsOf runner words
  let leads ← redirections.mapM (Lead.ofRedirection runner)
  match fields with
  | [] => bind runner assignments leads
  | name :: arguments =>
    let p ← get
    let special := Grammar.specialBuiltins.contains name && (p.functions.get? name).isNone
    let failed : Step Unit := if special then throw .failure else pure ()
    let named := callFields runner tested (fields.length + 1) false fields
    let body : Step Unit :=
      if special then do
        let assigned ← assignAll runner assignments
        trace p.descriptors assigned fields
        named
      else
        withAssignments runner assignments fun assigned => do
          trace p.descriptors assigned fields
          named
    if name = "exec" && arguments.isEmpty then
      match ← outcome (leads.forM Lead.perform) with
      | .ok () => body
      | .error interrupt => throw interrupt
    else Lead.around leads failed body

/-! ### Compound commands -/

/-- Runs the body of a loop; whether the loop goes on. -/
def inLoop (body : Step Unit) : Step Bool := do
  match ← outcome body with
  | .ok () | .error (.again 1) => return true
  | .error (.leave 1) => return false
  | .error (.leave n) => throw (.leave (n - 1))
  | .error (.again n) => throw (.again (n - 1))
  | .error interrupt => throw interrupt

/-- Runs a step as a loop around commands. -/
def asLoop (step : Step Unit) : Step Unit :=
  Process.around (fun p => { p with loops := p.loops + 1 })
    (fun p => { p with loops := p.loops - 1 }) step

/-- A loop that goes on as long as a condition holds. Its status is that of the last turn. -/
def loop (runner : Runner) (tested untilSuccess : Bool) (condition body : Command) :
    Step Unit :=
  asLoop (turns maxEffort 0)
where
  /-- The turns of the loop, at most `limit` of them, after one with a status. -/
  turns : Nat → Nat → Step Unit
    | 0, _ => throw .overdue
    | limit + 1, status => do
      let goesOn ← inLoop (do spend; runner.command true condition)
      if !goesOn then setStatus status
      else if ((← get).status = 0) = untilSuccess then setStatus status
      else
        let goesOn ← inLoop (runner.command tested body)
        if goesOn then turns limit (← get).status

/-- A loop over words. -/
def each (runner : Runner) (tested : Bool) (line : Nat) (name : String) (words : List Word)
    (body : Command) : Step Unit := do
  modify fun p => { p with line }
  let fields := (← words.mapM (Expansion.fields runner)).flatten
  setStatus 0
  asLoop (turns fields)
where
  /-- The turns of the loop. -/
  turns : List String → Step Unit
    | [] => pure ()
    | field :: rest => do
      assign name field
      if ← inLoop (do spend; runner.command tested body) then turns rest

/-- The first case that a text matches is run. -/
def select (runner : Runner) (tested : Bool) (line : Nat) (word : Word)
    (cases : List (List Word × Command)) : Step Unit := do
  modify fun p => { p with line }
  let text ← Expansion.textOf runner word
  setStatus 0
  first text.toList cases
where
  /-- Whether one of some patterns matches. -/
  anyMatch (text : List Char) : List Word → Step Bool
    | [] => return false
    | pattern :: rest => do
      if Glob.isMatch (← Expansion.pattern runner pattern) text then return true
      else anyMatch text rest
  /-- Runs the first case that a text matches. -/
  first (text : List Char) : List (List Word × Command) → Step Unit
    | [] => pure ()
    | (patterns, body) :: rest => do
      if ← anyMatch text patterns then runner.command tested body else first text rest

/-- Runs commands each of which reads what the one before it writes, all at the same time. -/
def pipeline (runner : Runner) (tested : Bool) (commands : List Command) : Step Unit := do
  let start := (← get).world.elapsed
  go start start none commands
where
  /-- Runs the commands from one on, with the stream that it reads. -/
  go (start latest : Nat) (input : Option Nat) : List Command → Step Unit
    | [] => pure ()
    | command :: rest => do
      modify fun p => { p with world := { p.world with elapsed := start } }
      let output ← if rest.isEmpty then pure none
        else (do return some (← addStream ⟨.memory .empty, 0, true⟩))
      let leading (number : Nat) (index : Option Nat) (step : Step Unit) : Step Unit :=
        index.elim step fun index => withStream number index step
      leading 0 input (leading 1 output (inSubshell runner (runner.command tested command)))
      let latest := max latest (← get).world.elapsed
      modify fun p => { p with world := { p.world with elapsed := latest } }
      go start latest output rest

/-- Runs a command in the background. It takes place at once, but the time that it takes passes only
where it is waited for. -/
def background (runner : Runner) (command : Command) : Step Unit := do
  let p ← get
  let id := p.world.nextId
  let empty ← addStream ⟨.nowhere, 0, false⟩
  let unlimited (q : Process) : Process := { q with world := { q.world with limit := none } }
  let (result, after) ← Process.around unlimited
    (fun q => { q with world := { q.world with limit := p.world.limit } })
    (withStream 0 empty (apart (toEnd runner (runner.command false command))))
  let finished := (← get).world.elapsed
  modify fun q =>
    { q with
      world := { q.world with elapsed := p.world.elapsed }
      jobs := ⟨id, finished, statusOf result after⟩ :: q.jobs
      lastJob := some id
      status := 0 }

/-- Runs a command. -/
def evaluate (runner : Runner) (tested : Bool) (command : Command) : Step Unit := do
  settle runner
  if (← get).isSet 'n' then return ()
  match command with
  | .simple line assignments words redirections =>
    spend
    simple runner tested line assignments words redirections
    settle runner
    checkFailure tested
  | .negation command =>
    runner.command true command
    setStatus (if (← get).status = 0 then 1 else 0)
  | .pipeline commands =>
    pipeline runner tested commands
    settle runner
    checkFailure tested
  | .both first second =>
    runner.command true first
    if (← get).status = 0 then runner.command tested second
  | .either first second =>
    runner.command true first
    if (← get).status ≠ 0 then runner.command tested second
  | .sequence commands => commands.forM (runner.command tested)
  | .background command => background runner command
  | .subshell line body =>
    modify fun p => { p with line }
    inSubshell runner (runner.command tested body)
    settle runner
    checkFailure tested
  | .redirected line body redirections =>
    modify fun p => { p with line }
    let leads ← redirections.mapM (Lead.ofRedirection runner)
    match body with
    | .subshell _ inner =>
      Lead.around leads (pure ()) (inSubshell runner (runner.command tested inner))
      settle runner
      checkFailure tested
    | body => Lead.around leads (checkFailure tested) (runner.command tested body)
  | .choice condition body otherwise =>
    runner.command true condition
    if (← get).status = 0 then runner.command tested body
    else otherwise.elim (setStatus 0) (runner.command tested)
  | .loop untilSuccess condition body => loop runner tested untilSuccess condition body
  | .each line name words body => each runner tested line name words body
  | .select line word cases => select runner tested line word cases
  | .function name body =>
    modify fun p => { p with functions := p.functions.put name body, status := 0 }

end Evaluation

end Shell

end RecordWatch
