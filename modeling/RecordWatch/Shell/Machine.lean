import RecordWatch.Shell.Evaluation
import RecordWatch.Shell.Tool.Editor
import RecordWatch.Shell.Tool.Expr
import RecordWatch.Shell.Tool.Files
import RecordWatch.Shell.Tool.Lines
import RecordWatch.Shell.Tool.Plain
import RecordWatch.Shell.Tool.Search

/-! Starting programs: those that a machine comes with, shells among them, and scripts that name the
program that runs them. The shell and its programs only stand in for those of a real system: they
are what the actions of rules run where the program is tried out, and no theorem is about them. -/

namespace RecordWatch

namespace Shell

namespace Machine

open Process

/-! ### Shells -/

/-- What a shell is started with: whether its first operand is a script itself, whether the script
is the input, and its operands. -/
structure Invocation where
  given : Bool
  fromInput : Bool
  operands : List String

/-- Sets the options of a shell and gives what it is started with. -/
def invocation (given fromInput : Bool) : List String → Step Invocation
  | [] => return ⟨given, fromInput, []⟩
  | word :: rest => do
    match word.toList with
    | ['-'] | ['-', '-'] => return ⟨given, fromInput, rest⟩
    | ['-', 'o'] | ['+', 'o'] =>
      match rest with
      | name :: rest =>
        match Builtin.optionNames.lookup name with
        | some letter =>
          Builtin.setOption (word = "-o") letter
          invocation given fromInput rest
        | none => fail ("Illegal option -o " ++ name)
      | [] => return ⟨given, fromInput, []⟩
    | '-' :: letters =>
      Builtin.setLetters true (letters.filter (· ≠ 'c'))
      invocation (given || letters.contains 'c') (fromInput || letters.contains 's') rest
    | '+' :: letters =>
      Builtin.setLetters false letters
      invocation given fromInput rest
    | _ => return ⟨given, fromInput, word :: rest⟩

/-- Runs a shell in a process of its own: a script that is given, one in a file, or its input. -/
def shell (runner : Runner) (name : String) (arguments : List String) : Step Unit := do
  let p ← get
  set { p with
    shell := p.id
    caller := p.shell
    name := name
    arguments := []
    bindings := (startBindings p.environment).put "PPID" ⟨some (toString p.shell), false, false⟩
    functions := []
    options := []
    status := 0
    line := 0
    builtin := none
    loops := 0
    lastJob := none
    hidden := [] }
  let body : Step Unit := do
    let invocation ← invocation false false arguments
    let reads := invocation.fromInput || invocation.operands.isEmpty
    match invocation.given, reads, invocation.operands with
    | true, _, [] => fail "-c requires an argument"
    | true, _, script :: operands =>
      modify fun p => { p with name := operands.headD name, arguments := operands.drop 1 }
      runner.text false script
    | false, true, operands =>
      modify fun p => { p with arguments := operands }
      let script ← takeAll 0
      runner.text false (script.toOption.getD "")
    | false, false, [] => pure ()
    | false, false, path :: operands =>
      match (← get).readFile path with
      | .ok script =>
        modify fun p => { p with name := path, arguments := operands }
        runner.text false script
      | .error _ => fail ("cannot open " ++ path ++ ": No such file")
  Evaluation.toEnd runner body

/-! ### Programs that start programs -/

/-- Starts another program, whose status becomes that of this one. -/
def pass (runner : Runner) (name : String) (words : List String) : Step Nat := do
  match words with
  | [] => return 0
  | program :: arguments =>
    let refuse (why : String) (status : Nat) : Step Nat := do
      let shown := if name = "xargs" then program else Tool.inQuotes program
      Tool.grumble name (shown ++ ": " ++ why)
      return status
    let p ← get
    let path? := if (p.value? "PATH").isSome then p.program? program
      else { p with bindings := p.bindings.put "PATH" ⟨some System.barePath, true, false⟩ }.program?
        program
    match path? with
    | none => refuse "No such file or directory" 127
    | some path =>
      match ← runner.program path arguments with
      | .ok (.code n) => return n
      | .ok (.signal n) => return 128 + n
      | .error .missing => refuse "No such file or directory" 127
      | .error .denied => refuse "Permission denied" 126
      | .error .unknownFormat => refuse "Exec format error" 126

/-- Starts a program with other variables, or lists the variables. -/
def env (runner : Runner) : List String → Step Nat
  | [] => Tool.printenv []
  | "-i" :: rest | "-" :: rest => do
    modify fun p => { p with bindings := [] }
    env runner rest
  | "-u" :: name :: rest => do
    modify fun p => { p with bindings := p.bindings.filter fun entry => entry.1 ≠ name }
    env runner rest
  | "--" :: rest => pass runner "env" rest
  | "-S" :: word :: rest =>
    pass runner "env" ((word.splitOn " ").filter (· ≠ "") ++ rest)
  | word :: rest => do
    match Builtin.nameAndValue word with
    | (name, some value) =>
      modify fun p => { p with bindings := p.bindings.put name ⟨some value, true, false⟩ }
      env runner rest
    | (_, none) =>
      if word.startsWith "-S" && word.length > 2 then
        pass runner "env" (((word.drop 2).toString.splitOn " ").filter (· ≠ "") ++ rest)
      else if word.startsWith "-" then
        Tool.misuse "env" ("invalid option -- '" ++ ((word.drop 1).take 1).toString ++ "'") 125
      else pass runner "env" (word :: rest)

/-- Writes the paths of programs. -/
def which : Tool := fun names =>
  names.foldlM (fun status name => do
    let p ← get
    match (p.program? name).filter fun path => (p.nodeAt path).toBool with
    | some path => do
      say (path ++ "\n")
      return status
    | none => return 1) 0

/-- Starts a program that is killed after some time. -/
def timeout (runner : Runner) (words : List String) : Step Nat := do
  match words with
  | limit :: program :: arguments =>
    match Tool.milliseconds? limit with
    | none => Tool.misuse "timeout" ("invalid time interval '" ++ limit ++ "'") 125
    | some limit =>
      let before := (← get).world.limit
      let own := (← get).world.elapsed + limit
      if limit = 0 || before.any (· ≤ own) then pass runner "timeout" (program :: arguments)
      else
        let withLimit (limit : Option Nat) (p : Process) : Process :=
          { p with world := { p.world with limit } }
        let step := pass runner "timeout" (program :: arguments)
        match ← outcome (Process.around (withLimit (some own)) (withLimit before) step) with
        | .ok status => return status
        | .error .overdue =>
          modify fun p => { p with world := { p.world with elapsed := own } }
          return 124
        | .error interrupt => throw interrupt
  | _ => Tool.misuse "timeout" "missing operand" 125

/-- The words of a text, with the quotes around them taken away. -/
def quotedWords (text : String) : List String :=
  let close (done : List String) (word : Option (List Char)) : List String :=
    (word.map fun octets => String.ofList octets.reverse).toList ++ done
  let (done, word, _) := text.toList.foldl (fun (done, word, quote) c =>
    match (quote : Option Char) with
    | some q => if c = q then (done, word, none) else (done, some (c :: word.getD []), quote)
    | none =>
      if c = '\'' || c = '"' then (done, some (word.getD []), some c)
      else if isSpace c then (close done word, none, none)
      else (done, some (c :: word.getD []), none))
    (([], none, none) : List String × Option (List Char) × Option Char)
  (close done word).reverse

/-- Lists of at most `size` words. -/
def chunks (size : Nat) : Nat → List String → List (List String)
  | 0, _ => []
  | _, [] => []
  | limit + 1, words => words.take size :: chunks size limit (words.drop size)

/-- Starts a program with the words of the input as further arguments. -/
def xargs (runner : Runner) : Tool :=
  fun words => do
    let (count, place, empty, separator, words) : Option Nat × Option String × Bool ×
        Option Char × List String := options none none true none words
    let input := ((← Tool.contentOf "-").toOption).getD ""
    let items : List String :=
      match (separator : Option Char), (place : Option String) with
      | some c, _ => (input.splitOn (String.singleton c)).filter (· ≠ "")
      | none, some _ => (Octets.lines input).map fun (line : String) =>
        String.ofList (line.toList.dropWhile isSpace)
      | none, none => quotedWords input
    let command := if words.isEmpty then ["echo"] else words
    let calls : List (List String) :=
      match (place : Option String) with
      | some mark => items.map fun item => command.map fun (word : String) => word.replace mark item
      | none =>
        if items.isEmpty then (if empty then [command] else [])
        else
          let size := (count.getD items.length)
          (chunks (max 1 size) items.length items).map fun chunk => command ++ chunk
    calls.foldlM (fun status call => do
      let result ← pass runner "xargs" call
      return if result = 0 then status else if result ≥ 126 then result else 123) 0
where
  /-- The number of words for each call, the text that stands for a line, whether the program is
  started without words, what separates them, and the command. -/
  options (count : Option Nat) (place : Option String) (empty : Bool) (separator : Option Char) :
      List String → Option Nat × Option String × Bool × Option Char × List String
    | "-n" :: n :: rest => options (decimal? n) place empty separator rest
    | "-I" :: mark :: rest => options count (some mark) empty separator rest
    | "-r" :: rest => options count place false separator rest
    | "-0" :: rest => options count place empty (some '\x00') rest
    | "-d" :: text :: rest => options count place empty (Escape.text text).1.toList.head? rest
    | word :: rest =>
      match word.toList with
      | '-' :: 'n' :: digits =>
        options (decimal? (String.ofList digits)) place empty separator rest
      | '-' :: 'I' :: mark => options count (some (String.ofList mark)) empty separator rest
      | _ => (count, place, empty, separator, word :: rest)
    | [] => (count, place, empty, separator, [])

/-! ### All programs -/

/-- The installed program of a name. -/
def tool (runner : Runner) (name : String) : Tool :=
  match name with
  | "[" => Tool.test "["
  | "basename" => Tool.basename
  | "cat" => Tool.cat
  | "chmod" => Tool.chmod
  | "cp" => Tool.cp
  | "cut" => Tool.cut
  | "dirname" => Tool.dirname
  | "echo" => Tool.echo
  | "egrep" => Tool.grep "grep" false true
  | "env" => env runner
  | "expr" => Tool.expr
  | "false" => fun _ => return 1
  | "fgrep" => Tool.grep "grep" true false
  | "fold" => Tool.fold
  | "grep" => Tool.grep "grep" false false
  | "head" => Tool.head
  | "ls" => Tool.ls
  | "mkdir" => Tool.mkdir
  | "mktemp" => Tool.mktemp
  | "mv" => Tool.mv
  | "nl" => Tool.nl
  | "nohup" => pass runner "nohup"
  | "paste" => Tool.paste
  | "printenv" => Tool.printenv
  | "printf" => Tool.printf
  | "pwd" => Tool.pwd
  | "rev" => Tool.rev
  | "rm" => Tool.rm
  | "rmdir" => Tool.rmdir
  | "sed" => Tool.sed
  | "seq" => Tool.seq
  | "sleep" => Tool.sleep
  | "sort" => Tool.sort
  | "tac" => Tool.tac
  | "tail" => Tool.tail
  | "tee" => Tool.tee
  | "test" => Tool.test "test"
  | "timeout" => timeout runner
  | "touch" => Tool.touch
  | "tr" => Tool.tr
  | "uname" => Tool.uname
  | "uniq" => Tool.uniq
  | "wc" => Tool.wc
  | "which" => which
  | "xargs" => xargs runner
  | "yes" => Tool.yes
  | _ => fun _ => return 0

/-- Runs a step as a program in a process of its own. -/
def asProgram (step : Step Unit) : Step ExitStatus := do
  let (result, after) ← apart (do
    modify fun p => { p with builtin := none }
    step)
  return Evaluation.statusOf result after

/-- The program that the first line of a script names, and the argument that it gives it. -/
def interpreter? (script : String) : Option (String × Option String) :=
  match script.toList with
  | '#' :: '!' :: rest =>
    let isBlank (c : Char) : Bool := c = ' ' || c = '\t'
    let line := (rest.takeWhile (· ≠ '\n')).dropWhile isBlank
    let line := (line.reverse.dropWhile isBlank).reverse
    let program := line.takeWhile fun c => !isBlank c
    let argument := (line.dropWhile fun c => !isBlank c).dropWhile isBlank
    if program.isEmpty then none
    else
      some (String.ofList program,
        if argument.isEmpty then none else some (String.ofList argument))
  | _ => none

/-- Starts the program at a path. -/
def start (runner : Runner) (path : String) (arguments : List String) :
    Step (Except StartError ExitStatus) := do
  wait 0
  let p ← get
  match p.find path, p.nodeAt path with
  | .ok (place, _, _), .ok (.file bytes true _) =>
    match System.program? place, p.world.files.node? place with
    | some name, none =>
      if System.shells.contains name then
        return .ok (← asProgram (shell runner "sh" arguments))
      else
        return .ok (← asProgram (do setStatus (← tool runner name arguments)))
    | _, _ =>
      match interpreter? (Octets.ofBytes bytes) with
      | none => return .error .unknownFormat
      | some (program, argument) =>
        runner.program program (argument.toList ++ path :: arguments)
  | _, .ok _ => return .error .denied
  | _, .error _ => return .error .missing

/-- The steps of at most `depth` levels. -/
def runner : Nat → Runner
  | 0 =>
    { command := fun _ _ => throw .overdue
      text := fun _ _ => throw .overdue
      expand := fun _ _ => throw .overdue
      program := fun _ _ => throw .overdue }
  | depth + 1 =>
    let next := runner depth
    { command := Evaluation.evaluate next
      text := Evaluation.evaluateText next
      expand := Expansion.glyphs next
      program := start next }

/-- The levels that running programs may have. -/
def maxDepth : Nat := 1000

/-- What a program leaves behind. -/
structure Trace where
  result : Except Interrupt (Except StartError ExitStatus)
  files : FileTree
  output : ByteArray
  complaint : ByteArray
  /-- The signals sent to the caller, in order. -/
  signals : List Nat

/-- Runs the program at a path, or of a name, with some files, variables and input. -/
def run (files : FileTree) (environment : Fields String) (input : ByteArray)
    (limit : Option Nat) (program : String) (arguments : List String) : Trace :=
  let world := startWorld files input limit
  let outer : Process :=
    { Process.start world outerId (environment.mapValues Octets.ofText) with
      id := outerId
      shell := outerId }
  let program := Octets.ofText program
  let started : Step (Except StartError ExitStatus) := do
    match (← get).program? program with
    | none => return .error .missing
    | some path => (runner maxDepth).program path (arguments.map Octets.ofText)
  let (result, p) := started.run outer
  { result := result
    files := p.world.files
    output := Octets.toBytes (p.contentOf 1)
    complaint := Octets.toBytes (p.contentOf 2)
    signals := (p.world.sent.filter fun entry => entry.1 = outerId).reverse.map Prod.snd }

end Machine

end Shell

end RecordWatch
