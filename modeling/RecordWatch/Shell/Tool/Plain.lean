import RecordWatch.Shell.Condition
import RecordWatch.Shell.Format
import RecordWatch.Shell.Tool

/-! Programs that write texts, check conditions, wait or tell about their surroundings. -/

namespace RecordWatch

namespace Shell

namespace Tool

open Process

/-- The options that `echo` takes: whether the line ends and whether escapes are replaced. -/
def echoOptions (ended escapes : Bool) : List String → Bool × Bool × List String
  | [] => (ended, escapes, [])
  | word :: rest =>
    match word.toList with
    | '-' :: c :: letters =>
      if (c :: letters).all fun letter => ['n', 'e', 'E'].contains letter then
        let ended := ended && !(c :: letters).contains 'n'
        let escapes := (c :: letters).foldl (fun escapes letter =>
          if letter = 'e' then true else if letter = 'E' then false else escapes) escapes
        echoOptions ended escapes rest
      else (ended, escapes, word :: rest)
    | _ => (ended, escapes, word :: rest)

/-- Writes its arguments. -/
def echo : Tool := fun words => do
  let (ended, escapes, words) := echoOptions true false words
  let text := String.intercalate " " words
  let (text, stopped) := if escapes then Escape.text text else (text, false)
  say (if ended && !stopped then text ++ "\n" else text)
  return 0

/-- Writes its arguments with a format. -/
def printf : Tool := fun words => do
  match (if words.head? = some "--" then words.drop 1 else words) with
  | [] => misuse "printf" "missing operand" 1
  | format :: arguments =>
    let printed := Printed.ofFormat format arguments
    say (String.ofList printed.output.reverse)
    printed.complaints.reverse.forM (grumble "printf")
    match printed.fault with
    | some fault => do
      grumble "printf" fault
      return 1
    | none => return if printed.complaints.isEmpty then 0 else 1

/-- Checks a condition. -/
def test (name : String) : Tool := fun words => do
  if name = "[" && words.getLast? ≠ some "]" then
    grumble "[" "missing ']'"
    return 2
  match Condition.holds (← get) 4 (if name = "[" then words.dropLast else words) with
  | .ok holds => return if holds then 0 else 1
  | .error message => do
    grumble name message
    return 2

/-- The milliseconds of a time, whose unit may be named by a letter. -/
def milliseconds? (text : String) : Option Nat :=
  let octets := text.toList
  let unit? : Option Nat :=
    match octets.getLast? with
    | some 's' => some 1000
    | some 'm' => some 60000
    | some 'h' => some 3600000
    | some 'd' => some 86400000
    | _ => none
  let digits := if unit?.isSome then octets.dropLast else octets
  let whole := digits.takeWhile Char.isDigit
  let fraction? :=
    match digits.dropWhile Char.isDigit with
    | [] => some []
    | '.' :: rest => if rest.all Char.isDigit then some rest else none
    | _ => none
  match fraction? with
  | some fraction =>
    if whole.isEmpty && fraction.isEmpty then none
    else some (decimalValue (whole ++ fraction) * unit?.getD 1000 / Nat.pow 10 fraction.length)
  | none => none

/-- Waits. -/
def sleep : Tool := fun words => do
  if words.isEmpty then return (← misuse "sleep" "missing operand" 1)
  match words.find? fun word => (milliseconds? word).isNone with
  | some word => misuse "sleep" ("invalid time interval '" ++ word ++ "'") 1
  | none =>
    wait ((words.filterMap milliseconds?).foldl Nat.add 0)
    return 0

/-- Writes the variables that programs get. -/
def printenv : Tool := fun names => do
  let environment := (← get).environment
  match names with
  | [] =>
    say (Octets.ofLines (environment.map fun (name, value) => name ++ "=" ++ value))
    return 0
  | names =>
    names.foldlM (fun status name => do
      match environment.get? name with
      | some value => do
        say (value ++ "\n")
        return status
      | none => return 1) 0

/-- Writes the directory. -/
def pwd : Tool := fun _ => do
  say ((← get).directory ++ "\n")
  return 0

/-- Writes a word again and again: into a pipe no more than anybody reads, and elsewhere without an
end. -/
def yes : Tool := fun words => do
  let line := (if words.isEmpty then "y" else String.intercalate " " words) ++ "\n"
  say (String.join (List.replicate 2000 line))
  if ((← get).stream? 1).any (· > 2) then return 0
  throw .overdue

/-- Writes the name of the system. -/
def uname : Tool := fun _ => do
  say "Linux\n"
  return 0

end Tool

end Shell

end RecordWatch
