import RecordWatch.Shell.Arithmetic
import RecordWatch.Shell.Process

/-! Conditions on words, as the program `test` checks them. -/

namespace RecordWatch

namespace Shell

namespace Condition

/-- What a word can be in a condition. -/
inductive Kind where
  | unary
  | binary
  | negation
  | conjunction
  | disjunction
  | opening
  | closing
deriving DecidableEq

/-- What a word is if it is an operator. -/
def kind? (word : String) : Option Kind :=
  match word with
  | "!" => some .negation
  | "-a" => some .conjunction
  | "-o" => some .disjunction
  | "(" => some .opening
  | ")" => some .closing
  | word =>
    if ["-r", "-w", "-x", "-e", "-f", "-d", "-c", "-b", "-p", "-u", "-g", "-k", "-s", "-t", "-z",
        "-n", "-h", "-O", "-G", "-L", "-S"].contains word then some .unary
    else if ["=", "!=", "<", ">", "-eq", "-ne", "-ge", "-gt", "-le", "-lt", "-nt", "-ot",
        "-ef"].contains word then some .binary
    else none

/-- What the first of some words is where an operator or an operand may stand; an operator that can
only be an operand is one. -/
def lexeme? : List String → Option Kind
  | [] => none
  | word :: rest =>
    match kind? word, rest with
    | some .unary, [] => none
    | some .unary, [_] => some .unary
    | some .unary, next :: _ => if kind? next = some .binary then none else some .unary
    | some .opening, [] => none
    | kind, _ => kind

/-- The integer of a word. -/
def integer (word : String) : Except String Int :=
  let text := word.toList.dropWhile isSpace
  let (negative, digits) :=
    match text with
    | '-' :: rest => (true, rest)
    | '+' :: rest => (false, rest)
    | rest => (false, rest)
  let n : Int := decimalValue (digits.takeWhile Char.isDigit)
  let n := if negative then -n else n
  if (digits.head?.map Char.isDigit).getD false && fitsSigned64 n &&
      (digits.dropWhile Char.isDigit).all isSpace then .ok n
  else .error ("Illegal number: " ++ word)

/-- Whether a property of what is at a path holds. -/
def holdsOf (p : Process) (operator path : String) : Bool :=
  let device := (p.find path).toOption.any fun (place, _, _) => System.devices.contains place
  match p.nodeAt path with
  | .error _ => false
  | .ok node =>
    match operator, node with
    | "-f", .file _ _ _ => !device
    | "-d", node => node.isDirectory
    | "-c", _ => device
    | "-s", .file bytes _ _ => bytes.size > 0
    | "-s", .directory _ => true
    | "-x", .file _ executable _ => executable
    | "-f", _ | "-b", _ | "-p", _ | "-u", _ | "-g", _ | "-k", _ | "-h", _ | "-L", _ | "-S", _ =>
      false
    | _, _ => true

/-- Whether an operator holds of a word. -/
def unary (p : Process) (operator word : String) : Except String Bool :=
  match operator with
  | "-z" => .ok (word = "")
  | "-n" => .ok (word ≠ "")
  | "-t" => (integer word).map fun _ => false
  | operator => .ok (holdsOf p operator word)

/-- The time of the last change of what is at a path. -/
def timeOf? (p : Process) (path : String) : Option Int := (p.nodeAt path).toOption.map Node.modified

/-- Whether an operator holds between two words. -/
def binary (p : Process) (operator left right : String) : Except String Bool := do
  let compared (holds : Int → Int → Bool) : Except String Bool := do
    let a ← integer left
    return holds a (← integer right)
  match operator with
  | "=" => return left = right
  | "!=" => return left ≠ right
  | "<" => return left < right
  | ">" => return right < left
  | "-eq" => compared fun a b => a = b
  | "-ne" => compared fun a b => a ≠ b
  | "-gt" => compared fun a b => b < a
  | "-ge" => compared fun a b => b ≤ a
  | "-lt" => compared fun a b => a < b
  | "-le" => compared fun a b => a ≤ b
  | "-nt" =>
    match timeOf? p left, timeOf? p right with
    | some a, some b => return b < a
    | some _, none => return true
    | _, _ => return false
  | "-ot" =>
    match timeOf? p left, timeOf? p right with
    | some a, some b => return a < b
    | none, some _ => return true
    | _, _ => return false
  | _ => return (timeOf? p left).isSome && (p.find left).toOption.map Prod.fst =
      (p.find right).toOption.map Prod.fst

/-- Whether a primary condition holds, and its last word with what follows it. -/
abbrev Checked := Except String (Bool × List String)

/-- A primary condition; `inner` checks what stands in parentheses. -/
def primary (p : Process) (inner : List String → Checked) (words : List String) : Checked :=
  match words, lexeme? words with
  | [], _ => .ok (false, [])
  | _ :: rest, some .opening =>
    if rest.head? = some ")" then .ok (false, rest)
    else do
      let (holds, last) ← inner rest
      match last.drop 1 with
      | ")" :: after => return (holds, ")" :: after)
      | _ => throw "closing paren expected"
  | operator :: rest, some .unary =>
    match rest with
    | [] => .error (operator ++ ": argument expected")
    | word :: after => return (← unary p operator word, word :: after)
  | left :: operator :: rest, _ =>
    if kind? operator = some .binary then
      match rest with
      | [] => .error (operator ++ ": argument expected")
      | right :: after => return (← binary p operator left right, right :: after)
    else .ok (left ≠ "", left :: operator :: rest)
  | [word], _ => .ok (word ≠ "", [word])

/-- A condition with at most `limit` negations before it. -/
def negation (p : Process) (inner : List String → Checked) : Nat → List String → Checked
  | 0, words => primary p inner words
  | limit + 1, words =>
    if lexeme? words = some .negation then
      if (words.drop 1).isEmpty then .ok (true, words)
      else do
        let (holds, last) ← negation p inner limit (words.drop 1)
        return (!holds, last)
    else primary p inner words

/-- Conditions joined by an operator, at most `limit` more; both sides of it are checked. -/
def chain (operator : Kind) (combine : Bool → Bool → Bool) (operand : List String → Checked) :
    Nat → List String → Checked
  | 0, words => operand words
  | limit + 1, words => do
    let (holds, last) ← operand words
    if lexeme? (last.drop 1) = some operator then
      let (others, last) ← chain operator combine operand limit (last.drop 2)
      return (combine holds others, last)
    else return (holds, last)

/-- A condition of at most `depth` levels among `count` words. -/
def expression (p : Process) (count : Nat) : Nat → List String → Checked
  | 0, _ => .error "closing paren expected"
  | depth + 1, words =>
    chain .disjunction (· || ·)
      (chain .conjunction (· && ·) (negation p (expression p count depth) count) count) count words

/-- Whether words hold as a condition. Of up to four words, the operator in the middle or the
negation in front decides what the others are. -/
def holds (p : Process) : Nat → List String → Except String Bool
  | _, [] => .ok false
  | 0, _ => .ok false
  | limit + 1, words =>
    let whole (words : List String) : Except String Bool := do
      let (holds, last) ← expression p (words.length + 1) (words.length + 1) words
      match last with
      | word :: _ :: _ =>
        throw (if word = "" then "unexpected operator" else word ++ ": unexpected operator")
      | _ => return holds
    match words with
    | [left, operator, right] =>
      if kind? operator = some .binary then binary p operator left right
      else if left = "(" && right = ")" then whole [operator]
      else if left = "!" then (holds p limit [operator, right]).map not
      else whole words
    | ["(", a, b, ")"] => whole [a, b]
    | ["!", a, b, c] => (holds p limit [a, b, c]).map not
    | words => whole words

end Condition

end Shell

end RecordWatch
