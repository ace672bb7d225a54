import RecordWatch.Shell.Arithmetic
import RecordWatch.Shell.Tool

/-! Programs that make, move, list and remove files. -/

namespace RecordWatch

namespace Shell

namespace Tool

open Process

/-- A path in quotes. -/
def inQuotes (path : String) : String := "'" ++ path ++ "'"

/-- The last part of a path. -/
def baseName (path : String) : String :=
  match ((Path.pieces path).filter (· ≠ "")).getLast? with
  | some name => name
  | none => if path = "" then "" else "/"

/-- Does something for every path; its status is 1 if that fails for one of them. -/
def forAll (step : String → Step Nat) (paths : List String) : Step Nat :=
  paths.foldlM (fun status path => do return max status (← step path)) 0

/-- Reports why something failed for a path. -/
def failed (name words path : String) (error : FileError) : Step Nat := do
  let p ← get
  grumble name (words ++ " " ++ inQuotes path ++ ": " ++ p.reason path error)
  return 1

/-- Whether a path leads to a directory. -/
def isDirectory (p : Process) (path : String) : Bool :=
  ((p.nodeAt path).toOption.map Node.isDirectory).getD false

/-- Removes files, and directories if asked to. -/
def rm : Tool :=
  withOptions "rm" ⟨['r', 'R', 'f', 'i', 'v', 'd', 'I'], [], [("recursive", 'r'),
      ("force", 'f'), ("verbose", 'v')]⟩ 1 fun arguments => do
    let deep := arguments.isGiven 'r' || arguments.isGiven 'R'
    let forced := arguments.isGiven 'f'
    if arguments.operands.isEmpty && !forced then return (← misuse "rm" "missing operand" 1)
    forAll (fun path => do
      let p ← get
      match p.nodeAt path with
      | .error error => if forced then return 0 else failed "rm" "cannot remove" path error
      | .ok node =>
        if node.isDirectory && !deep then
          grumble "rm" ("cannot remove " ++ inQuotes path ++ ": Is a directory")
          return 1
        let _ ← change fun files => do return files.remove (← files.locate (p.resolve path)).1
        return 0) arguments.operands

/-- Makes directories. -/
def mkdir : Tool :=
  withOptions "mkdir" ⟨['p', 'v'], ['m'], [("parents", 'p'), ("mode", 'm')]⟩ 1
    fun arguments => do
      if arguments.operands.isEmpty then return (← misuse "mkdir" "missing operand" 1)
      forAll (fun path => do
        let p ← get
        let make (files : FileTree) : Except FileError FileTree :=
          files.makeDirectories (p.resolve path)
        let refuse (why : String) : Step Nat := do
          grumble "mkdir" ("cannot create directory " ++ inQuotes path ++ ": " ++ why)
          return 1
        if arguments.isGiven 'p' then
          if isDirectory p path then return 0
          match ← change make with
          | .ok () => return 0
          | .error error => refuse (if (p.nodeAt path).toBool then "File exists"
              else p.reason path error)
        else
          match p.find path with
          | .error error => refuse (p.reason path error)
          | .ok (_, _, some _) => refuse "File exists"
          | .ok (_, _, none) =>
            match ← change make with
            | .ok () => return 0
            | .error error => refuse (p.reason path error)) arguments.operands

/-- Removes bare directories. -/
def rmdir : Tool :=
  withOptions "rmdir" ⟨['p', 'v'], [], []⟩ 1 fun arguments => do
    if arguments.operands.isEmpty then return (← misuse "rmdir" "missing operand" 1)
    forAll (fun path => do
      let p ← get
      match p.nodeAt path with
      | .error error => failed "rmdir" "failed to remove" path error
      | .ok node =>
        let place := ((p.find path).toOption.map Prod.fst).getD []
        let refuse (why : String) : Step Nat := do
          grumble "rmdir" ("failed to remove " ++ inQuotes path ++ ": " ++ why)
          return 1
        if !node.isDirectory then refuse "Not a directory"
        else if !p.world.files.isBare place then refuse "Directory not empty"
        else
          let _ ← change fun files => return files.remove place
          return 0) arguments.operands

/-- Makes files that are not there, and gives the others the time. -/
def touch : Tool :=
  withOptions "touch" ⟨['c', 'a', 'm'], ['d', 't', 'r'], [("no-create", 'c')]⟩ 1
    fun arguments => do
      if arguments.operands.isEmpty then return (← misuse "touch" "missing file operand" 1)
      forAll (fun path => do
        let p ← get
        if isDirectory p path then return 0
        let present := (p.nodeAt path).toBool
        if arguments.isGiven 'c' && !present then return 0
        match ← writeFile path ((p.readFile path).toOption.getD "") with
        | .ok () => return 0
        | .error error => failed "touch" "cannot touch" path error) arguments.operands

/-- The path that something goes to: into a directory, it keeps its name. -/
def destination (p : Process) (source target : String) : String :=
  if isDirectory p target then Path.join target (baseName source) else target

/-- Does something with sources and the target that is named last. -/
def withTarget (name : String) (operands : List String) (step : String → String → Step Nat) :
    Step Nat := do
  match operands.reverse with
  | [] => misuse name "missing file operand" 1
  | [source] => misuse name ("missing destination file operand after " ++ inQuotes source) 1
  | target :: sources =>
    let p ← get
    if sources.length > 1 && !isDirectory p target then
      grumble name ("target " ++ inQuotes target ++ ": " ++
        if (p.nodeAt target).toBool then "Not a directory" else "No such file or directory")
      return 1
    forAll (fun source => do step source (destination (← get) source target)) sources.reverse

/-- Moves files and directories. -/
def mv : Tool :=
  withOptions "mv" ⟨['f', 'n', 'i', 'v', 'T'], [], [("force", 'f')]⟩ 1 fun arguments =>
    withTarget "mv" arguments.operands fun source target => do
      let p ← get
      match p.nodeAt source with
      | .error error => failed "mv" "cannot stat" source error
      | .ok node =>
        if arguments.isGiven 'n' && (p.nodeAt target).toBool then return 0
        let refuse (why : String) : Step Nat := do
          grumble "mv" why
          return 1
        let same := (p.find source).toOption.map Prod.fst = (p.find target).toOption.map Prod.fst
        if same then
          refuse (inQuotes source ++ " and " ++ inQuotes target ++ " are the same file")
        else if !node.isDirectory && isDirectory p target then
          refuse ("cannot overwrite directory " ++ inQuotes target ++ " with non-directory")
        else
          match ← change fun files => files.rename (p.resolve source) (p.resolve target) with
          | .ok () => return 0
          | .error error =>
            refuse ("cannot move " ++ inQuotes source ++ " to " ++ inQuotes target ++ ": " ++
              p.reason target error)

/-- Writes a copy of a file to a path; where there was none, it may be run if the file may. -/
def writeCopy (target : String) (content : ByteArray) (executable : Bool) : Step Nat := do
  let p ← get
  match ← writeFile target (Octets.ofBytes content) with
  | .ok () =>
    if executable && !(p.nodeAt target).toBool then
      let _ ← change fun files => return files.setExecutable (p.resolve target) true
    return 0
  | .error error => failed "cp" "cannot create regular file" target error

/-- Copies files, and directories if asked to. -/
def cp : Tool :=
  withOptions "cp" ⟨['r', 'R', 'a', 'p', 'f', 'n', 'v', 'i', 'T'], [], [("recursive", 'r'),
      ("force", 'f'), ("archive", 'a')]⟩ 1 fun arguments =>
    withTarget "cp" arguments.operands fun source target => do
      let p ← get
      let deep := ['r', 'R', 'a'].any arguments.isGiven
      let same := (p.find source).toOption.map Prod.fst = (p.find target).toOption.map Prod.fst
      match p.nodeAt source with
      | .error error => failed "cp" "cannot stat" source error
      | .ok (.file content executable _) =>
        if same then
          grumble "cp" (inQuotes source ++ " and " ++ inQuotes target ++ " are the same file")
          return 1
        else if arguments.isGiven 'n' && (p.nodeAt target).toBool then return 0
        else writeCopy target content executable
      | .ok (.directory _) =>
        if !deep then
          grumble "cp" ("-r not specified; omitting directory " ++ inQuotes source)
          return 1
        let place := ((p.find source).toOption.map Prod.fst).getD []
        let inside := p.world.files.nodes.filter fun entry =>
          place.isPrefixOf entry.1 && entry.1 ≠ place
        let inside := inside.mergeSort fun a b => decide (a.1.length ≤ b.1.length)
        let _ ← change fun files => files.makeDirectories (p.resolve target)
        inside.foldlM (fun status (path, node) => do
          let path := Path.join target (String.intercalate "/" (path.drop place.length))
          match node with
          | .directory _ =>
            let _ ← change fun files => files.makeDirectories (p.resolve path)
            return status
          | .file content executable _ =>
            return max status (← writeCopy path content executable)) 0

/-- Lists directories and files by name. -/
def ls : Tool :=
  withOptions "ls" ⟨['1', 'a', 'A', 'd', 'l', 'h', 'r', 'p', 'F', 't', 'R'], [], [("all", 'a')]⟩ 2
    fun arguments => do
      let p ← get
      let ordered (names : List String) : List String :=
        let sorted := names.mergeSort fun a b => decide (a ≤ b)
        if arguments.isGiven 'r' then sorted.reverse else sorted
      let marked (path name : String) : String :=
        if (arguments.isGiven 'p' || arguments.isGiven 'F') && isDirectory p path then name ++ "/"
        else name
      let paths := ordered (if arguments.operands.isEmpty then ["."] else arguments.operands)
      let missing := paths.filter fun path => !(p.nodeAt path).toBool
      missing.forM fun path => do
        let error := match p.nodeAt path with
          | .error error => error
          | .ok _ => .notFound
        let _ ← failed "ls" "cannot access" path error
      let found := paths.filter fun path => (p.nodeAt path).toBool
      let directories := if arguments.isGiven 'd' then [] else found.filter (isDirectory p)
      let files := found.filter fun path => !directories.contains path
      say (Octets.ofLines (files.map fun path => marked path path))
      directories.zipIdx.forM fun (path, i) => do
        if paths.length > 1 then
          say ((if i = 0 && files.isEmpty then "" else "\n") ++ path ++ ":\n")
        let place := ((p.find path).toOption.map Prod.fst).getD []
        let names := p.entries place
        let names := if arguments.isGiven 'a' then "." :: ".." :: names
          else if arguments.isGiven 'A' then names
          else names.filter fun name => !name.startsWith "."
        say (Octets.ofLines ((ordered names).map fun name => marked (Path.join path name) name))
      return if missing.isEmpty then 0 else 2

/-- Whether a mode makes a file one that may be run, if it says anything about that. -/
def executableBy? (mode : String) : Option Bool :=
  if mode ≠ "" && mode.all fun c => '0' ≤ c && c ≤ '7' then
    some ((Expression.digitsValue 8 mode.toList) / 64 % 2 = 1)
  else
    (mode.splitOn ",").foldl (fun known clause =>
      let rights := clause.toList.dropWhile fun c => ['u', 'g', 'o', 'a'].contains c
      match rights with
      | '+' :: letters => if letters.contains 'x' then some true else known
      | '-' :: letters => if letters.contains 'x' then some false else known
      | '=' :: letters => some (letters.contains 'x')
      | _ => known) none

/-- Changes the rights of files. -/
def chmod : Tool := fun words => do
  let words := words.filter fun word => !(["-R", "-f", "-v", "--"].contains word)
  match words with
  | [] => misuse "chmod" "missing operand" 1
  | [mode] => misuse "chmod" ("missing operand after " ++ inQuotes mode) 1
  | mode :: paths =>
    forAll (fun path => do
      let p ← get
      match p.nodeAt path, executableBy? mode with
      | .error error, _ => failed "chmod" "cannot access" path error
      | .ok _, some executable =>
        let _ ← change fun files => return files.setExecutable (p.resolve path) executable
        return 0
      | .ok _, none => return 0) paths

/-- Makes a file or a directory of a new name, and writes its path. -/
def mktemp : Tool :=
  withOptions "mktemp" ⟨['d', 'q', 'u'], ['p'], [("directory", 'd')]⟩ 1 fun arguments => do
    let p ← get
    let path := "/tmp/tmp.mk" ++ toString (p.world.nextId * 7919 + p.world.streams.size)
    let _ ← change fun files =>
      if arguments.isGiven 'd' then files.makeDirectories path else files.write path .empty
    say (path ++ "\n")
    return 0

/-- Writes the last part of a path, without its ending if that is given. -/
def basename : Tool :=
  withOptions "basename" ⟨['a', 'z'], ['s'], [("multiple", 'a'), ("suffix", 's')]⟩ 1
    fun arguments => do
      let several := arguments.isGiven 'a' || arguments.isGiven 's'
      let cut (ending path : String) : String :=
        let name := baseName path
        if name ≠ ending && name.endsWith ending then (name.dropEnd ending.length).toString
        else name
      match arguments.operands with
      | [] => misuse "basename" "missing operand" 1
      | path :: rest =>
        if several then
          say (Octets.ofLines (arguments.operands.map (cut ((arguments.value? 's').getD ""))))
          return 0
        else
          match rest with
          | [] | [_] =>
            say (cut (rest.headD "") path ++ "\n")
            return 0
          | _ :: extra :: _ => misuse "basename" ("extra operand " ++ inQuotes extra) 1

/-- The path that a path lies in, as text. -/
def directoryName (path : String) : String :=
  let octets := path.toList.reverse.dropWhile (· = '/')
  if octets.isEmpty then (if path = "" then "." else "/")
  else
    let rest := octets.dropWhile (· ≠ '/')
    let kept := rest.dropWhile (· = '/')
    if rest.isEmpty then "." else if kept.isEmpty then "/" else String.ofList kept.reverse

/-- Writes the paths that paths lie in. -/
def dirname : Tool :=
  withOptions "dirname" ⟨['z'], [], []⟩ 1 fun arguments => do
    if arguments.operands.isEmpty then return (← misuse "dirname" "missing operand" 1)
    say (Octets.ofLines (arguments.operands.map directoryName))
    return 0

end Tool

end Shell

end RecordWatch
