import RecordWatch.Programs
import RecordWatch.Fields
import RecordWatch.Word
import RecordWatch.Text.Digits
import RecordWatch.Shell.Octets
import RecordWatch.Shell.Script
import RecordWatch.Shell.System

/-! Processes of shells. They share a world of files, open streams and signals, in which only
waiting takes time; a process that is not done when its time is up is killed. -/

namespace RecordWatch

namespace Shell

/-- Where the bytes of a stream come from and go to. -/
inductive Medium where
  | memory (content : ByteArray)
  | file (place : List String)
  | nowhere

/-- An open stream: its next byte is read from or written to its position, or written to its end. -/
structure Stream where
  medium : Medium
  position : Nat
  appending : Bool

/-- What all processes share. -/
structure World where
  files : FileTree
  streams : Array Stream
  /-- The milliseconds since the start and those after which everything ends. -/
  elapsed : Nat
  limit : Option Nat
  /-- How many more commands may run before the time is up. -/
  effort : Nat
  /-- The signals on their way, each with the process that it is for, latest first. -/
  sent : List (Nat × Nat)
  /-- The processes that there are, and the number of the next one. -/
  alive : List Nat
  nextId : Nat

/-- A variable. Without a value it only has its marks. -/
structure Binding where
  value : Option String
  exported : Bool
  constant : Bool

/-- A command in the background: when it ends and with which status. -/
structure Job where
  id : Nat
  finished : Nat
  status : ExitStatus

/-- A process that runs a shell. -/
structure Process where
  world : World
  /-- Its number, that of the shell that it belongs to, and that of the shell's caller. -/
  id : Nat
  shell : Nat
  caller : Nat
  /-- The name and the arguments of the script or the function that runs. -/
  name : String
  arguments : List String
  bindings : Fields Binding
  functions : Fields Command
  /-- The letters of the options that are set. -/
  options : List Char
  /-- The actions of signals, by their numbers; 0 is the end of the process. -/
  traps : List (Nat × String)
  /-- The streams by the numbers that they are open under. -/
  descriptors : List (Nat × Nat)
  directory : String
  /-- The status of the last command, and of the last substitution in the one that runs. -/
  status : Nat
  substituted : Nat
  /-- The line of the command that runs, and the builtin that runs, for messages. -/
  line : Nat
  builtin : Option String
  /-- The loops around the command that runs. -/
  loops : Nat
  jobs : List Job
  lastJob : Option Nat
  /-- The variables that the functions around the command have hidden, the innermost first. -/
  hidden : List (Fields (Option Binding))
  /-- The status that the shell leaves with while it runs the action of its end. -/
  leaving : Option Nat
  /-- How many octets of the current argument were taken as options. -/
  optionOffset : Nat
  mask : Nat

/-- What keeps a command from going on: a loop is left or begun again, a function returns, the shell
leaves, something failed for good, a signal kills the process, or the time is up. -/
inductive Interrupt where
  | leave (levels : Nat)
  | again (levels : Nat)
  | returned
  | exit
  | failure
  | killed (signal : Nat)
  | overdue
deriving DecidableEq

/-- A step of a process. -/
abbrev Step := ExceptT Interrupt (StateM Process)

namespace Process

/-- The number of the program that runs scripts. -/
def outerId : Nat := 4241

/-- How many commands may run before the time is up. -/
def maxEffort : Nat := 200000

/-- A world of files; `input` is read from the stream of number 0, and what is written as output and
as errors goes to the streams of the numbers 1 and 2. -/
def startWorld (files : FileTree) (input : ByteArray) (limit : Option Nat) : World where
  files := files
  streams := #[⟨.memory input, 0, false⟩, ⟨.memory .empty, 0, true⟩, ⟨.memory .empty, 0, true⟩]
  elapsed := 0
  limit := limit
  effort := maxEffort
  sent := []
  alive := [outerId]
  nextId := outerId + 1

/-- The variables of a shell that has just started. -/
def startBindings (environment : Fields String) : Fields Binding :=
  let given : Fields Binding := environment.mapValues fun value => ⟨some value, true, false⟩
  let given := if (given.get? "PATH").isSome then given
    else given.put "PATH" ⟨some System.searchPath, true, false⟩
  let put (bindings : Fields Binding) (entry : String × String) : Fields Binding :=
    bindings.put entry.1 ⟨some entry.2, false, false⟩
  [("IFS", " \t\n"), ("OPTIND", "1"), ("PS1", "$ "), ("PS2", "> "), ("PS4", "+ ")].foldl put given

/-- A shell that has just started in a world. -/
def start (world : World) (caller : Nat) (environment : Fields String) : Process where
  world := { world with alive := world.nextId :: world.alive, nextId := world.nextId + 1 }
  id := world.nextId
  shell := world.nextId
  caller := caller
  name := "sh"
  arguments := []
  bindings := (startBindings environment).put "PPID" ⟨some (toString caller), false, false⟩
  functions := []
  options := []
  traps := []
  descriptors := [(0, 0), (1, 1), (2, 2)]
  directory := "/"
  status := 0
  substituted := 0
  line := 1
  builtin := none
  loops := 0
  jobs := []
  lastJob := none
  hidden := []
  leaving := none
  optionOffset := 0
  mask := 18

/-- Whether an option is set. -/
def isSet (p : Process) (option : Char) : Bool := p.options.contains option

/-- The value of a variable. -/
def value? (p : Process) (name : String) : Option String :=
  (p.bindings.get? name).bind Binding.value

/-- The octets at which words are split. -/
def separators (p : Process) : String := (p.value? "IFS").getD " \t\n"

/-- The variables that programs get. -/
def environment (p : Process) : Fields String :=
  p.bindings.filterMap fun (name, binding) =>
    if binding.exported then binding.value.map fun value => (name, value) else none

/-- A path as it is seen from the root. -/
def resolve (p : Process) (path : String) : String :=
  Octets.toText (if path = "" then "" else Path.join p.directory path)

/-- The place of a path, whether it can only be a directory, and what is there. -/
def find (p : Process) (path : String) : Except FileError (List String × Bool × Option Node) := do
  let path := p.resolve path
  match p.world.files.locate path with
  | .ok (place, isDirectory) =>
    return (place, isDirectory, (p.world.files.node? place).or (System.node? place))
  | .error error =>
    let place := (Path.pieces path).filter fun part => part ≠ "" && part ≠ "."
    match System.node? place with
    | some node => return (place, path.endsWith "/", some node)
    | none =>
      if place.length > 1 && System.directories.contains place.dropLast then
        throw .notFound
      else throw error

/-- What is at a path. -/
def nodeAt (p : Process) (path : String) : Except FileError Node := do
  let (_, isDirectory, node?) ← p.find path
  match node? with
  | none => throw .notFound
  | some node => if isDirectory && !node.isDirectory then throw .failed else return node

/-- The names of what is in a directory. -/
def entries (p : Process) (place : List String) : List String :=
  let known := System.directories ++ System.standardFiles ++ System.devices ++
    System.programDirectories.flatMap fun directory =>
      System.programs.map fun name => directory ++ [name]
  let standard := known.filterMap fun path =>
    if path.dropLast = place then path.getLast? else none
  let own := p.world.files.entries place
  (own ++ standard.filter fun name => !own.contains name).map Octets.ofText

/-! ### Effort, time and other processes -/

/-- Lets time pass. -/
def wait (milliseconds : Nat) : Step Unit := do
  let p ← get
  let elapsed := p.world.elapsed + milliseconds
  set { p with world := { p.world with elapsed } }
  if p.world.limit.any (· ≤ elapsed) then throw .overdue

/-- Counts a command. -/
def spend : Step Unit := do
  let p ← get
  if p.world.effort = 0 then throw .overdue
  set { p with world := { p.world with effort := p.world.effort - 1 } }

/-- What a step comes to, also if it is interrupted. -/
def outcome {α : Type} (step : Step α) : Step (Except Interrupt α) :=
  ExceptT.mk (do return .ok (← step.run))

/-- Runs a step with something changed before it and set right after it, however it ends. -/
def around {α : Type} (before after : Process → Process) (step : Step α) : Step α := do
  modify before
  let result ← outcome step
  modify after
  match result with
  | .ok value => return value
  | .error interrupt => throw interrupt

/-- Runs a step in a process of its own, and gives what that leaves behind. -/
def apart (step : Step Unit) : Step (Except Interrupt Unit × Process) := do
  let p ← get
  let id := p.world.nextId
  set { p with
    world := { p.world with nextId := id + 1, alive := id :: p.world.alive }
    id := id
    traps := p.traps.filter fun (_, action) => action = ""
    jobs := []
    leaving := none }
  let result ← outcome step
  let after ← get
  let world := { after.world with alive := after.world.alive.filter (· ≠ id) }
  set { p with world }
  match result with
  | .error .overdue => throw .overdue
  | _ => return (result, after)

/-- Sets the status. -/
def setStatus (status : Nat) : Step Unit := modify fun p => { p with status }

/-! ### Streams -/

/-- The bytes that a stream still holds. -/
def remaining (p : Process) (stream : Stream) : Except FileError ByteArray :=
  match stream.medium with
  | .memory content => return content.extract stream.position content.size
  | .nowhere => return .empty
  | .file place =>
    match (p.world.files.node? place).or (System.node? place) with
    | some (.file content _ _) => return content.extract stream.position content.size
    | _ => throw .failed

/-- The index of the stream under a number. -/
def stream? (p : Process) (number : Nat) : Option Nat := p.descriptors.lookup number

/-- Changes a stream. -/
def setStream (index : Nat) (stream : Stream) : Step Unit :=
  modify fun p =>
    { p with world := { p.world with streams := p.world.streams.setIfInBounds index stream } }

/-- A content with bytes written over it from a position on. -/
def overwritten (content : ByteArray) (position : Nat) (bytes : ByteArray) : ByteArray :=
  let padding : ByteArray := ⟨Array.replicate (position - content.size) 0⟩
  content.extract 0 position ++ padding ++ bytes ++
    content.extract (position + bytes.size) content.size

/-- Writes octets to the stream under a number; whether there is one. -/
def write (number : Nat) (octets : String) : Step Bool := do
  let p ← get
  match p.stream? number with
  | none => return false
  | some index =>
    match p.world.streams[index]? with
    | none => return false
    | some stream =>
      let bytes := Octets.toBytes octets
      match stream.medium with
      | .nowhere => return true
      | .memory content =>
        setStream index { stream with medium := .memory (content ++ bytes) }
        return true
      | .file place =>
        match p.world.files.node? place with
        | some (.file content executable _) =>
          let position := if stream.appending then content.size else stream.position
          let files := p.world.files
          let content := overwritten content position bytes
          let files :=
            { files.put place (.file content executable files.time) with time := files.time + 1 }
          set { p with world := { p.world with files } }
          setStream index { stream with position := position + bytes.size }
          return true
        | _ => return true

/-- Takes the bytes that the stream under a number still holds, up to and with the first that
satisfies `p`. -/
def takeUntil (number : Nat) (ends : UInt8 → Bool) : Step (Except FileError String) := do
  let p ← get
  match (p.stream? number).bind fun index => p.world.streams[index]?.map fun s => (index, s) with
  | none => return .error .failed
  | some (index, stream) =>
    match p.remaining stream with
    | .error error => return .error error
    | .ok bytes =>
      let size := (bytes.toList.findIdx? ends).elim bytes.size (· + 1)
      setStream index { stream with position := stream.position + size }
      return .ok (Octets.ofBytes (bytes.extract 0 size))

/-- Takes all that the stream under a number still holds. -/
def takeAll (number : Nat) : Step (Except FileError String) := takeUntil number fun _ => false

/-- A new stream; its index. -/
def addStream (stream : Stream) : Step Nat := do
  let p ← get
  set { p with world := { p.world with streams := p.world.streams.push stream } }
  return p.world.streams.size

/-- A new stream that holds octets. -/
def addMemory (octets : String) : Step Nat :=
  addStream ⟨.memory (Octets.toBytes octets), 0, false⟩

/-- The content of a stream that was written to. -/
def contentOf (p : Process) (index : Nat) : String :=
  match p.world.streams[index]?.map Stream.medium with
  | some (.memory content) => Octets.ofBytes content
  | _ => ""

/-- The streams with one number led elsewhere, or closed. -/
def descriptorsWith (descriptors : List (Nat × Nat)) (number : Nat) (index : Option Nat) :
    List (Nat × Nat) :=
  (index.map fun index => (number, index)).toList ++
    descriptors.filter fun entry => entry.1 ≠ number

/-- Runs a step with a number led to a stream. -/
def withStream {α : Type} (number index : Nat) (step : Step α) : Step α := do
  let before := (← get).descriptors
  around (fun p => { p with descriptors := descriptorsWith before number (some index) })
    (fun p => { p with descriptors := before }) step

/-- Writes output. -/
def say (octets : String) : Step Unit := do
  let _ ← write 1 octets

/-- Writes a text to where errors are reported. -/
def complain (octets : String) : Step Unit := do
  let _ ← write 2 octets

/-- Reports an error of the shell, with its line. -/
def report (message : String) : Step Unit := do
  let p ← get
  complain (p.name ++ ": " ++ toString p.line ++ ": " ++
    (p.builtin.elim "" fun name => name ++ ": ") ++ message ++ "\n")

/-- Reports an error that ends the command, and the shell unless a regular builtin runs. -/
def fail {α : Type} (message : String) : Step α := do
  report message
  setStatus 2
  throw .failure

/-! ### Variables -/

/-- Binds a variable. -/
def assign (name value : String) : Step Unit := do
  let p ← get
  let old := (p.bindings.get? name).getD ⟨none, false, false⟩
  if old.constant then fail (name ++ ": is read only")
  let binding := { old with value := some value, exported := old.exported || p.isSet 'a' }
  set { p with
    bindings := p.bindings.put name binding
    optionOffset := if name = "OPTIND" then 0 else p.optionOffset }

/-- Marks a variable as one that programs get. -/
def exportVariable (name : String) : Step Unit :=
  modify fun p =>
    let old := (p.bindings.get? name).getD ⟨none, false, false⟩
    { p with bindings := p.bindings.put name { old with exported := true } }

/-- The bindings without one, or with another. -/
def restored (bindings : Fields Binding) (name : String) (old : Option Binding) :
    Fields Binding :=
  match old with
  | some binding => bindings.put name binding
  | none => bindings.filter fun entry => entry.1 ≠ name

/-- Why a file could not be used, as the system names it. -/
def reason (p : Process) (path : String) (error : FileError) : String :=
  let path := p.resolve path
  match error with
  | .notFound => "No such file or directory"
  | .failed =>
    if (Path.pieces path).any fun part => !FileTree.isName part then "File name too long"
    else if ((p.nodeAt path).toOption.map Node.isDirectory).getD false then "Is a directory"
    else "Not a directory"

/-- Changes the files; whether that worked. -/
def change (step : FileTree → Except FileError FileTree) : Step (Except FileError Unit) := do
  let p ← get
  match step p.world.files with
  | .ok files =>
    set { p with world := { p.world with files } }
    return .ok ()
  | .error error => return .error error

/-- The content of a file. -/
def readFile (p : Process) (path : String) : Except FileError String := do
  match ← p.nodeAt path with
  | .file bytes _ _ => return Octets.ofBytes bytes
  | .directory _ => throw .failed

/-- Writes a file. -/
def writeFile (path content : String) : Step (Except FileError Unit) := do
  let path := (← get).resolve path
  change fun files => files.write path (Octets.toBytes content)

end Process

end Shell

end RecordWatch
