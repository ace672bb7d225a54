import RecordWatch.Shell.Process

/-! The programs of a machine: what they make of their arguments, what they read, and how they
report that something is wrong. -/

namespace RecordWatch

namespace Shell

/-- A program: a step on its arguments that gives its status. -/
abbrev Tool := List String → Step Nat

namespace Tool

open Process

/-- The options of a program: letters that stand alone, letters that take a value, and long names of
letters. -/
structure Accepted where
  alone : List Char
  valued : List Char
  long : List (String × Char)

/-- The arguments of a program: its options with their values, and its operands. -/
structure Arguments where
  options : List (Char × String)
  operands : List String

namespace Arguments

/-- Whether an option is given. -/
def isGiven (arguments : Arguments) (letter : Char) : Bool :=
  arguments.options.any fun option => option.1 = letter

/-- The last value of an option. -/
def value? (arguments : Arguments) (letter : Char) : Option String :=
  arguments.options.reverse.lookup letter

/-- The values of an option. -/
def values (arguments : Arguments) (letter : Char) : List String :=
  arguments.options.filterMap fun option =>
    if option.1 = letter then some option.2 else none

/-- The arguments with one more option. -/
def withOption (letter : Char) (value : String) (arguments : Arguments) : Arguments :=
  { arguments with options := (letter, value) :: arguments.options }

/-- The options of a group of letters, with the value that the last one lacks, if it does. -/
def letters (accepted : Accepted) : List Char → Except String (List (Char × String) × Option Char)
  | [] => .ok ([], none)
  | letter :: rest =>
    if accepted.alone.contains letter then do
      let (options, missing) ← letters accepted rest
      return ((letter, "") :: options, missing)
    else if accepted.valued.contains letter then
      if rest.isEmpty then .ok ([], some letter)
      else .ok ([(letter, String.ofList rest)], none)
    else .error ("invalid option -- '" ++ String.singleton letter ++ "'")

/-- The arguments of words; options may stand after operands. -/
def read (accepted : Accepted) : List String → Except String Arguments
  | [] => .ok ⟨[], []⟩
  | "--" :: rest => .ok ⟨[], rest⟩
  | word :: rest =>
    match word.toList with
    | '-' :: '-' :: long =>
      let name := String.ofList (long.takeWhile (· ≠ '='))
      let value := long.dropWhile (· ≠ '=')
      match accepted.long.lookup name with
      | none => .error ("unrecognized option '" ++ word ++ "'")
      | some letter =>
        if accepted.alone.contains letter then (read accepted rest).map (withOption letter "")
        else
          match value, rest with
          | '=' :: value, rest =>
            (read accepted rest).map (withOption letter (String.ofList value))
          | _, value :: rest => (read accepted rest).map (withOption letter value)
          | _, [] => .error ("option '--" ++ name ++ "' requires an argument")
    | '-' :: c :: more => do
      let (options, missing) ← letters accepted (c :: more)
      match missing, rest with
      | none, rest =>
        let arguments ← read accepted rest
        return { arguments with options := options ++ arguments.options }
      | some letter, value :: rest =>
        let arguments ← read accepted rest
        return { arguments with options := options ++ (letter, value) :: arguments.options }
      | some letter, [] =>
        throw ("option requires an argument -- '" ++ String.singleton letter ++ "'")
    | _ => (read accepted rest).map fun arguments =>
      { arguments with operands := word :: arguments.operands }

end Arguments

/-- Reports that something is wrong. -/
def grumble (name message : String) : Step Unit := complain (name ++ ": " ++ message ++ "\n")

/-- Reports a wrong use. -/
def misuse (name message : String) (status : Nat) : Step Nat := do
  grumble name (message ++ "\nTry '" ++ name ++ " --help' for more information.")
  return status

/-- A program with options; a wrong use has a status. -/
def withOptions (name : String) (accepted : Accepted) (status : Nat)
    (body : Arguments → Step Nat) : Tool := fun words =>
  match Arguments.read accepted words with
  | .ok arguments => body arguments
  | .error message => misuse name message status

/-- A number of an option; a wrong one is refused. -/
def withNumber (name what text : String) (body : Nat → Step Nat) : Step Nat :=
  match decimal? text with
  | some n => body n
  | none => do
    grumble name ("invalid " ++ what ++ ": '" ++ text ++ "'")
    return 1

/-- What is read from a path, or why it cannot be; a dash stands for the input. -/
def contentOf (path : String) : Step (Except String String) := do
  let p ← get
  if path = "-" || path = "/dev/stdin" then
    if (p.stream? 0).isNone then return .error "Bad file descriptor"
    match ← takeAll 0 with
    | .ok text => return .ok text
    | .error _ => return .error "Is a directory"
  else
    match p.readFile path with
    | .ok text => return .ok text
    | .error error => return .error (p.reason path error)

/-- What is read from some paths, the input if there are none, with the status after that. What
cannot be read is reported in the words of the program. -/
def contents (name : String) (words : String → String → String) (status : Nat)
    (paths : List String) : Step (List (String × String) × Nat) :=
  (if paths.isEmpty then ["-"] else paths).foldlM (fun (read, worst) path => do
    match ← contentOf path with
    | .ok text => return (read ++ [(path, text)], worst)
    | .error reason =>
      grumble name (words path reason)
      return (read, status)) ([], 0)

/-- The plain words for what cannot be read. -/
def plainly (path reason : String) : String := path ++ ": " ++ reason

/-- A program that writes what it makes of the lines that it reads. -/
def onLines (name : String) (paths : List String) (change : List String → List String) :
    Step Nat := do
  let (read, status) ← contents name plainly 1 paths
  read.forM fun (_, text) => say (Octets.ofLines (change (Octets.lines text)))
  return status

/-- A count right-aligned in a width. -/
def rightAligned (width : Nat) (text : String) : String :=
  String.ofList (List.replicate (width - text.length) ' ') ++ text

end Tool

end Shell

end RecordWatch
