import RecordWatch.Shell.Octets

/-! Arithmetic of the shell on signed words of 64 bits. -/

namespace RecordWatch

namespace Shell

/-- Operators between two numbers. -/
inductive BinaryOperator where
  | times
  | quotient
  | remainder
  | plus
  | minus
  | shiftLeft
  | shiftRight
  | less
  | lessEqual
  | greater
  | greaterEqual
  | equal
  | unequal
  | bitAnd
  | bitXor
  | bitOr

namespace BinaryOperator

/-- The operators by their signs, those that bind most tightly first. -/
def levels : List (List (String × BinaryOperator)) :=
  [[("*", .times), ("/", .quotient), ("%", .remainder)],
    [("+", .plus), ("-", .minus)],
    [("<<", .shiftLeft), (">>", .shiftRight)],
    [("<", .less), ("<=", .lessEqual), (">", .greater), (">=", .greaterEqual)],
    [("==", .equal), ("!=", .unequal)],
    [("&", .bitAnd)],
    [("\x5e", .bitXor)],
    [("|", .bitOr)]]

/-- The operators that an assignment may apply. -/
def assigning : List (String × BinaryOperator) :=
  [("*=", .times), ("/=", .quotient), ("%=", .remainder), ("+=", .plus), ("-=", .minus),
    ("<<=", .shiftLeft), (">>=", .shiftRight), ("&=", .bitAnd), ("\x5e=", .bitXor),
    ("|=", .bitOr)]

/-- The result of an operator; a division by zero has none. -/
def result? (operator : BinaryOperator) (a b : Int64) : Option Int64 :=
  let truth (holds : Bool) : Int64 := if holds then 1 else 0
  match operator with
  | .times => some (a * b)
  | .quotient => if b = 0 then none else some (a / b)
  | .remainder => if b = 0 then none else some (a % b)
  | .plus => some (a + b)
  | .minus => some (a - b)
  | .shiftLeft => some (a <<< b)
  | .shiftRight => some (a >>> b)
  | .less => some (truth (a < b))
  | .lessEqual => some (truth (a ≤ b))
  | .greater => some (truth (b < a))
  | .greaterEqual => some (truth (b ≤ a))
  | .equal => some (truth (a = b))
  | .unequal => some (truth (a ≠ b))
  | .bitAnd => some (a &&& b)
  | .bitXor => some (a ^^^ b)
  | .bitOr => some (a ||| b)

end BinaryOperator

/-- Operators before a number. -/
inductive UnaryOperator where
  | keep
  | negate
  | invert
  | complement

namespace UnaryOperator

/-- The operators by their signs. -/
def signs : List (String × UnaryOperator) :=
  [("+", .keep), ("-", .negate), ("!", .invert), ("~", .complement)]

/-- The result of an operator. -/
def apply (a : Int64) : UnaryOperator → Int64
  | .keep => a
  | .negate => -a
  | .invert => if a = 0 then 1 else 0
  | .complement => ~~~a

end UnaryOperator

/-- An arithmetic expression. -/
inductive Expression where
  | number (n : Int64)
  | parameter (name : String)
  | unary (operator : UnaryOperator) (operand : Expression)
  | binary (operator : BinaryOperator) (first second : Expression)
  | both (first second : Expression)
  | either (first second : Expression)
  | choice (condition first second : Expression)
  | assign (name : String) (operator : Option BinaryOperator) (value : Expression)

namespace Expression

/-- The greatest and the least number. -/
def greatest : Int := 9223372036854775807

/-- A number brought into the range of words. -/
def clamp (n : Int) : Int64 := Int64.ofInt (max (-greatest - 1) (min greatest n))

/-- The value of digits to a base. -/
def digitsValue (base : Nat) (digits : List Char) : Nat :=
  digits.foldl (fun n c =>
    n * base + (if c.isDigit then c.toNat - 48 else c.toLower.toNat - 87)) 0

/-- Whether an octet is a hexadecimal digit. -/
def isHex (c : Char) : Bool := c.isDigit || ('a' ≤ c.toLower && c.toLower ≤ 'f')

/-- The number that octets begin with, and what follows it: a leading zero makes it octal, a leading
`0x` hexadecimal. -/
def natural : List Char → Nat × List Char
  | '0' :: x :: d :: rest =>
    if (x = 'x' || x = 'X') && isHex d then
      let digits := (d :: rest).takeWhile isHex
      (digitsValue 16 digits, (d :: rest).dropWhile isHex)
    else octal (x :: d :: rest)
  | '0' :: rest => octal rest
  | octets => (digitsValue 10 (octets.takeWhile Char.isDigit), octets.dropWhile Char.isDigit)
where
  /-- The octal number of the digits that octets begin with, and what follows them. -/
  octal (octets : List Char) : Nat × List Char :=
    let isOctal (c : Char) : Bool := '0' ≤ c && c ≤ '7'
    (digitsValue 8 (octets.takeWhile isOctal), octets.dropWhile isOctal)

/-- The number that the value of a variable stands for: white space around it is ignored, and no
value is zero. Numbers out of range are refused. -/
def numberOf? (text : String) : Option Int64 :=
  let text := text.toList.dropWhile isSpace
  let (negative, digits) :=
    match text with
    | '-' :: rest => (true, rest)
    | '+' :: rest => (false, rest)
    | rest => (false, rest)
  if text.isEmpty then some 0
  else if !(digits.head?.map Char.isDigit).getD false then none
  else
    let (n, rest) := natural digits
    let n : Int := if negative then -n else n
    if rest.all isSpace ∧ -greatest - 1 ≤ n ∧ n ≤ greatest then some (Int64.ofInt n) else none

/-- A token of an expression. -/
inductive Token where
  | number (n : Int64)
  | name (name : String)
  | sign (sign : String)
deriving DecidableEq

/-- The signs of expressions, longer ones before those that they begin with. -/
def signs : List String :=
  ["<<=", ">>=", "<<", ">>", "<=", ">=", "==", "!=", "&&", "||", "*=", "/=", "%=", "+=", "-=",
    "&=", "\x5e=", "|=", "<", ">", "=", "!", "~", "&", "|", "\x5e", "*", "/", "%", "+", "-", "(",
    ")", "?", ":"]

/-- The tokens of octets, at most `limit` of them. What is no token stands for itself. -/
def tokens : Nat → List Char → List Token
  | 0, _ => []
  | _, [] => []
  | limit + 1, c :: rest =>
    if c = ' ' ∨ c = '\t' ∨ c = '\n' then tokens limit rest
    else if c.isDigit then
      let (n, rest) := natural (c :: rest)
      .number (clamp n) :: tokens limit rest
    else if isNameStart c then
      .name (String.ofList ((c :: rest).takeWhile isNameChar)) ::
        tokens limit ((c :: rest).dropWhile isNameChar)
    else
      match signs.find? fun sign => sign.toList.isPrefixOf (c :: rest) with
      | some sign => .sign sign :: tokens limit ((c :: rest).drop sign.length)
      | none => .sign (String.singleton c) :: tokens limit rest

/-- A reader of the front of a list of tokens; its errors say what was expected. -/
abbrev Reader := StateT (List Token) (Except String)

/-- The next token, if it is one of some signs, is taken. -/
def takeSign? {α : Type} (meanings : List (String × α)) : Reader (Option α) := do
  match ← get with
  | .sign sign :: rest =>
    match meanings.lookup sign with
    | some meaning =>
      set rest
      return some meaning
    | none => return none
  | _ => return none

/-- Operands joined by the operators of a level, after the first one; at most `limit` more. -/
def chain (operand : Reader Expression) (level : List (String × BinaryOperator)) :
    Nat → Expression → Reader Expression
  | 0, first => return first
  | limit + 1, first => do
    match ← takeSign? level with
    | some operator => chain operand level limit (.binary operator first (← operand))
    | none => return first

/-- A number, a variable or an expression in parentheses, with at most `limit` signs before it. -/
def primary (inner : Reader Expression) : Nat → Reader Expression
  | 0 => throw "expecting primary"
  | limit + 1 => do
    match ← takeSign? UnaryOperator.signs with
    | some operator => return .unary operator (← primary inner limit)
    | none =>
      match ← get with
      | .number n :: rest =>
        set rest
        return .number n
      | .name name :: rest =>
        set rest
        return .parameter name
      | .sign "(" :: rest =>
        set rest
        let expression ← inner
        match ← takeSign? [(")", ())] with
        | some () => return expression
        | none => throw "expecting ')'"
      | _ => throw "expecting primary"

/-- Operands joined by operators that bind ever less tightly. -/
def binaryChain (inner : Reader Expression) (count : Nat) : Reader Expression :=
  BinaryOperator.levels.foldl
    (fun operand level => do chain operand level count (← operand)) (primary inner count)

/-- Operands that all have to hold, at most `limit` of them. -/
def conjunction (operand : Reader Expression) : Nat → Reader Expression
  | 0 => operand
  | limit + 1 => do
    let first ← operand
    match ← takeSign? [("&&", ())] with
    | some () => return .both first (← conjunction operand limit)
    | none => return first

/-- Operands one of which has to hold, at most `limit` of them. -/
def disjunction (operand : Reader Expression) : Nat → Reader Expression
  | 0 => operand
  | limit + 1 => do
    let first ← operand
    match ← takeSign? [("||", ())] with
    | some () => return .either first (← disjunction operand limit)
    | none => return first

/-- A choice between two expressions, or just one; at most `limit` choices. -/
def conditional (inner : Reader Expression) (count : Nat) : Nat → Reader Expression
  | 0 => disjunction (conjunction (binaryChain inner count) count) count
  | limit + 1 => do
    let condition ← disjunction (conjunction (binaryChain inner count) count) count
    match ← takeSign? [("?", ())] with
    | none => return condition
    | some () =>
      let first ← inner
      match ← takeSign? [(":", ())] with
      | none => throw "expecting ':'"
      | some () => return .choice condition first (← conditional inner count limit)

/-- An expression of at most `depth` levels among `count` tokens. -/
def reader (count : Nat) : Nat → Reader Expression
  | 0 => throw "expecting primary"
  | depth + 1 => do
    let inner := reader count depth
    match ← get with
    | .name name :: .sign sign :: rest =>
      let operator? : Option (Option BinaryOperator) :=
        if sign = "=" then some none else (BinaryOperator.assigning.lookup sign).map some
      match operator? with
      | some operator =>
        set rest
        return .assign name operator (← inner)
      | none => conditional inner count count
    | _ => conditional inner count count

/-- The expression of a text. -/
def ofText? (text : String) : Except String Expression := do
  let tokens := tokens (text.length + 1) text.toList
  let count := tokens.length + 1
  let (expression, rest) ← (reader count count).run tokens
  if rest.isEmpty then return expression else throw "expecting EOF"

/-- Why an expression has no value: a division by zero, or a variable that is no number. -/
inductive Failure where
  | division
  | notNumber (text : String)

/-- Evaluation with the values that were assigned so far, the latest first. -/
abbrev Evaluating := StateT (List (String × Int64)) (Except Failure)

/-- The value of a variable. -/
def parameterValue (lookup : String → String) (name : String) : Evaluating Int64 := do
  match (← get).lookup name with
  | some value => return value
  | none =>
    match numberOf? (lookup name) with
    | some value => return value
    | none => throw (.notNumber (lookup name))

/-- The value of an operator. -/
def operatorValue (operator : BinaryOperator) (a b : Int64) : Evaluating Int64 :=
  match operator.result? a b with
  | some value => return value
  | none => throw .division

/-- The value of an expression; what the result does not depend on is not evaluated. -/
def value (lookup : String → String) : Expression → Evaluating Int64
  | .number n => return n
  | .parameter name => parameterValue lookup name
  | .unary operator operand => return operator.apply (← operand.value lookup)
  | .binary operator first second => do
    let a ← first.value lookup
    let b ← second.value lookup
    operatorValue operator a b
  | .both first second => do
    if (← first.value lookup) = 0 then return 0
    else return if (← second.value lookup) = 0 then 0 else 1
  | .either first second => do
    if (← first.value lookup) ≠ 0 then return 1
    else return if (← second.value lookup) = 0 then 0 else 1
  | .choice condition first second => do
    if (← condition.value lookup) ≠ 0 then first.value lookup else second.value lookup
  | .assign name operator? expression => do
    let right ← expression.value lookup
    let result ←
      match operator? with
      | none => pure right
      | some operator => operatorValue operator (← parameterValue lookup name) right
    modify fun assigned => (name, result) :: assigned
    return result

end Expression

end Shell

end RecordWatch
