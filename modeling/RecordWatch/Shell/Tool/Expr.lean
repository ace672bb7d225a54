import RecordWatch.Shell.Regex
import RecordWatch.Shell.Tool

/-! The program that evaluates expressions given as words. -/

namespace RecordWatch

namespace Shell

namespace Tool

open Process

namespace Expr

/-- Why words are no expression, or have no value. -/
inductive Failure where
  | missingAfter (word : String)
  | unexpected (word : String)
  | notInteger
  | division

/-- The words that are left, after the last one that was taken. -/
abbrev Reader := StateT (List String × String) (Except Failure)

/-- Takes the next word if it is one of some operators. -/
def take? (operators : List String) : Reader (Option String) := do
  match ← get with
  | (word :: rest, _) =>
    if operators.contains word then
      set (rest, word)
      return some word
    else return none
  | ([], _) => return none

/-- The integer of a value. -/
def integer? (value : String) : Option Int :=
  match value.toList with
  | '-' :: digits => (decimal? (String.ofList digits)).map fun n => -(n : Int)
  | _ => (decimal? value).map fun n => n

/-- The integer of a value, which has to be one. -/
def integer (value : String) : Reader Int :=
  match integer? value with
  | some n => return n
  | none => throw .notInteger

/-- Whether a value is empty or zero. -/
def isNull (value : String) : Bool := value = "" || integer? value = some 0

/-- What a pattern, which has to match at the start, finds: its group or the length of the match. -/
def find (text pattern : String) : String :=
  match Regex.ofText? false pattern with
  | none => "0"
  | some regex =>
    let octets := text.toList.toArray
    let grouped := (pattern.splitOn "\\(").length > 1
    match Regex.longestAt? octets false regex 0 with
    | none => if grouped then "" else "0"
    | some reached =>
      if grouped then
        match reached.groups.lookup 1 with
        | some (first, last) => String.ofList (octets.extract first last).toList
        | none => ""
      else toString reached.position

/-- The next word, whatever it is. -/
def word : Reader String := do
  match ← get with
  | (word :: rest, _) =>
    set (rest, word)
    return word
  | ([], last) => throw (.missingAfter last)

/-- A value: a word, what a function makes of words, or an expression in parentheses. -/
def primary (inner operand : Reader String) : Reader String := do
  let first ← word
  match first with
  | "(" =>
    let value ← inner
    match ← take? [")"] with
    | some _ => return value
    | none => throw (.unexpected ((← get).1.headD ")"))
  | "+" => word
  | "length" => return toString (← operand).length
  | "match" => return find (← operand) (← operand)
  | "index" => do
    let text ← operand
    let set ← operand
    return toString ((text.toList.findIdx? fun c => set.contains c).elim 0 (· + 1))
  | "substr" => do
    let text ← operand
    let position ← operand
    let length ← operand
    match integer? position, integer? length with
    | some position, some length =>
      if position ≤ 0 ∨ length ≤ 0 then return ""
      else return ((text.drop (position.toNat - 1)).take length.toNat).toString
    | _, _ => return ""
  | first => return first

/-- A value, in which at most `limit` functions stand one in another. -/
def nested (inner : Reader String) : Nat → Reader String
  | 0 => word
  | limit + 1 => primary inner (nested inner limit)

/-- Values joined by the operators of a level, after the first one; at most `limit` more. -/
def chain (operand : Reader String) (operators : List String)
    (apply : String → String → String → Reader String) : Nat → String → Reader String
  | 0, value => return value
  | limit + 1, value => do
    match ← take? operators with
    | none => return value
    | some operator => chain operand operators apply limit (← apply operator value (← operand))

/-- The result of an operator on integers. -/
def calculate (operator a b : String) : Reader String := do
  let x ← integer a
  let y ← integer b
  match operator with
  | "+" => return toString (x + y)
  | "-" => return toString (x - y)
  | "*" => return toString (x * y)
  | "/" => if y = 0 then throw .division else return toString (Int.tdiv x y)
  | _ => if y = 0 then throw .division else return toString (Int.tmod x y)

/-- The result of a comparison, of integers if both values are. -/
def compared (operator a b : String) : String :=
  let order :=
    match integer? a, integer? b with
    | some x, some y => compare x y
    | _, _ => compare a b
  let holds : Bool :=
    match operator with
    | "<" => order = .lt
    | "<=" => order ≠ .gt
    | "=" | "==" => order = .eq
    | "!=" => order ≠ .eq
    | ">=" => order ≠ .lt
    | _ => order = .gt
  if holds then "1" else "0"

/-- The value of an expression of at most `depth` levels among `count` words. -/
def value (count : Nat) : Nat → Reader String
  | 0 => throw (.unexpected "(")
  | depth + 1 =>
    let inner := value count depth
    let level (operand : Reader String) (operators : List String)
        (apply : String → String → String → Reader String) : Reader String := do
      chain operand operators apply count (← operand)
    let found := level (nested inner count) [":"] fun _ a b => return find a b
    let product := level found ["*", "/", "%"] calculate
    let total := level product ["+", "-"] calculate
    let order := level total ["<", "<=", "=", "==", "!=", ">=", ">"]
      fun operator a b => return compared operator a b
    let both := level order ["&"] fun _ a b => return if isNull a || isNull b then "0" else a
    level both ["|"] fun _ a b => return if !isNull a then a else if !isNull b then b else "0"

end Expr

/-- Writes the value of an expression; its status tells whether that is empty or zero. -/
def expr : Tool := fun words => do
  let words := if words.head? = some "--" then words.drop 1 else words
  if words.isEmpty then return (← misuse "expr" "missing operand" 2)
  let refuse (message : String) : Step Nat := do
    grumble "expr" message
    return 2
  match (Expr.value (words.length + 1) (words.length + 1)).run (words, "") with
  | .ok (value, ([], _)) =>
    say (value ++ "\n")
    return if Expr.isNull value then 1 else 0
  | .ok (_, (word :: _, _)) => refuse ("syntax error: unexpected argument '" ++ word ++ "'")
  | .error (.missingAfter word) =>
    refuse ("syntax error: missing argument after '" ++ word ++ "'")
  | .error (.unexpected word) => refuse ("syntax error: expecting ')' instead of '" ++ word ++ "'")
  | .error .notInteger => refuse "non-integer argument"
  | .error .division => refuse "division by zero"

end Tool

end Shell

end RecordWatch
