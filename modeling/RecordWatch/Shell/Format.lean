import RecordWatch.Double
import RecordWatch.Word
import RecordWatch.Text.Digits
import RecordWatch.Shell.Arithmetic

/-! Formats: text with escapes and directives that arguments are written by. -/

namespace RecordWatch

namespace Shell

/-! ### Escapes -/

namespace Escape

/-- The octet of a one-letter escape. -/
def letter? : Char → Option Char
  | 'a' => some '\x07'
  | 'b' => some '\x08'
  | 'e' => some '\x1b'
  | 'f' => some '\x0c'
  | 'n' => some '\n'
  | 'r' => some '\r'
  | 't' => some '\t'
  | 'v' => some '\x0b'
  | '\\' => some '\\'
  | _ => none

/-- Whether an octet is an octal digit. -/
def isOctal (c : Char) : Bool := '0' ≤ c && c ≤ '7'

/-- The octet of the first octal digits, at most `count` of them, and what follows them. -/
def octal (count : Nat) (octets : List Char) : Char × List Char :=
  let digits := (octets.take count).takeWhile isOctal
  (Char.ofNat (Expression.digitsValue 8 digits % 256), octets.drop digits.length)

/-- The octet of an escape after its backslash, and what follows it. A backslash that begins no
escape stands for itself. -/
def read : List Char → Char × List Char
  | c :: rest =>
    if isOctal c then octal 3 (c :: rest)
    else
      match letter? c with
      | some octet => (octet, rest)
      | none => ('\\', c :: rest)
  | [] => ('\\', [])

/-- A text with its escapes replaced, and whether one of them ends all output. Octal numbers have up
to three digits after a zero. -/
def replaced : Nat → List Char → List Char × Bool
  | 0, _ => ([], false)
  | _, [] => ([], false)
  | _ + 1, '\\' :: 'c' :: _ => ([], true)
  | limit + 1, '\\' :: '0' :: rest =>
    let (octet, rest) := octal 3 rest
    let (text, stopped) := replaced limit rest
    (octet :: text, stopped)
  | limit + 1, '\\' :: rest =>
    let (octet, rest) := read rest
    let (text, stopped) := replaced limit rest
    (octet :: text, stopped)
  | limit + 1, c :: rest =>
    let (text, stopped) := replaced limit rest
    (c :: text, stopped)

/-- A text with its escapes replaced, and whether one of them ends all output. -/
def text (s : String) : String × Bool :=
  let (octets, stopped) := replaced (s.length + 1) s.toList
  (String.ofList octets, stopped)

end Escape

/-! ### Directives -/

/-- A number of a directive: fixed, or taken from the arguments. -/
inductive Measure where
  | fixed (n : Nat)
  | argument

/-- How an argument is written. -/
structure Directive where
  flags : List Char
  width : Option Measure
  precision : Option Measure
  conversion : Char

/-- A part of a format. -/
inductive FormatPart where
  | octet (c : Char)
  | directive (directive : Directive)
  /-- A directive that there is not. -/
  | invalid (text : String)
  /-- A directive that is cut off. -/
  | unfinished

namespace FormatPart

/-- A number of a directive, and what follows it. -/
def measure? : List Char → Option Measure × List Char
  | '*' :: rest => (some .argument, rest)
  | octets =>
    let digits := octets.takeWhile Char.isDigit
    (if digits.isEmpty then none else some (.fixed (decimalValue digits)),
      octets.dropWhile Char.isDigit)

/-- The letters of the directives that there are. -/
def conversions : List Char :=
  ['b', 'c', 's', 'd', 'i', 'o', 'u', 'x', 'X', 'e', 'E', 'f', 'F', 'g', 'G']

/-- The directive after a percent sign, and what follows it. -/
def readDirective (octets : List Char) : FormatPart × List Char :=
  let isFlag (c : Char) : Bool := ['#', '-', '+', ' ', '0'].contains c
  let flags := octets.takeWhile isFlag
  let (width, rest) := measure? (octets.dropWhile isFlag)
  let (precision, rest) :=
    match rest with
    | '.' :: rest =>
      let (precision, rest) := measure? rest
      (some (precision.getD (.fixed 0)), rest)
    | rest => (none, rest)
  match rest with
  | [] => (.unfinished, [])
  | c :: after =>
    if conversions.contains c then (.directive ⟨flags, width, precision, c⟩, after)
    else
      (.invalid (String.ofList ('%' :: octets.take (octets.length - after.length))), after)

/-- The parts of a format, at most `limit` of them. -/
def readAll : Nat → List Char → List FormatPart
  | 0, _ => []
  | _, [] => []
  | limit + 1, '%' :: '%' :: rest => .octet '%' :: readAll limit rest
  | limit + 1, '%' :: rest =>
    let (part, rest) := readDirective rest
    part :: readAll limit rest
  | limit + 1, '\\' :: rest =>
    let (escaped, rest) := Escape.read rest
    .octet escaped :: readAll limit rest
  | limit + 1, c :: rest => .octet c :: readAll limit rest

/-- The parts of a format. -/
def ofText (format : String) : List FormatPart := readAll (format.length + 1) format.toList

end FormatPart

/-! ### Writing arguments -/

namespace Directive

/-- A text padded with blanks to a width. -/
def padded (left : Bool) (width : Nat) (text : List Char) : List Char :=
  let padding := List.replicate (width - text.length) ' '
  if left then text ++ padding else padding ++ text

/-- A sign and digits, padded with blanks or, between them, with zeros. -/
def paddedNumber (flags : List Char) (width : Nat) (zeros : Bool) (sign digits : List Char) :
    List Char :=
  if flags.contains '-' then padded true width (sign ++ digits)
  else if zeros && flags.contains '0' then
    sign ++ List.replicate (width - sign.length - digits.length) '0' ++ digits
  else padded false width (sign ++ digits)

/-- The sign of a number. -/
def signOf (flags : List Char) (negative : Bool) : List Char :=
  if negative then ['-']
  else if flags.contains '+' then ['+']
  else if flags.contains ' ' then [' ']
  else []

/-- The digits of a number to a base. -/
def digitsOf (base : Nat) (upper : Bool) (n : Nat) : List Char :=
  let digits := Nat.toDigits base n
  if upper then digits.map Char.toUpper else digits

/-- An integer by its conversion. -/
def integer (flags : List Char) (width : Nat) (precision : Option Nat) (conversion : Char)
    (n : Int) : List Char :=
  let (base, upper, mark) :=
    match conversion with
    | 'o' => (8, false, ['0'])
    | 'x' => (16, false, ['0', 'x'])
    | 'X' => (16, true, ['0', 'X'])
    | _ => (10, false, [])
  let magnitude := n.natAbs
  let digits := if magnitude = 0 ∧ precision = some 0 then [] else digitsOf base upper magnitude
  let digits := List.replicate (precision.getD 0 - digits.length) '0' ++ digits
  let marked := flags.contains '#' && base ≠ 10 && magnitude ≠ 0
  let mark := if marked && !(base = 8 && digits.head? = some '0') then mark else []
  let sign := if base = 10 && conversion ≠ 'u' then signOf flags (n < 0) else []
  paddedNumber flags width precision.isNone (sign ++ mark) digits

/-- The units in one of a double. -/
def one : Nat := Nat.pow 2 1074

/-- A value, in units, rounded to a number of places after the point. -/
def fixedDigits (alternate : Bool) (units places : Nat) : List Char :=
  let scaled := Double.divRoundEven (units * Nat.pow 10 places) one
  let digits := digitsOf 10 false scaled
  let digits := List.replicate (places + 1 - digits.length) '0' ++ digits
  let whole := digits.take (digits.length - places)
  whole ++ (if places = 0 && !alternate then [] else ['.']) ++ digits.drop whole.length

/-- The significant digits of a value in units, one more than `places`, and the power of ten of the
first. -/
def significant (units places : Nat) : Nat × Int :=
  if units = 0 then (0, 0)
  else
    let atLeast (e : Int) : Bool :=
      if 0 ≤ e then decide (one * Nat.pow 10 e.toNat ≤ units)
      else decide (one ≤ units * Nat.pow 10 (-e).toNat)
    let guess := ((units.log2 : Int) - 1074) * 30103 / 100000
    let power :=
      if atLeast (guess + 1) then guess + 1 else if atLeast guess then guess else guess - 1
    let shift : Int := places - power
    let digits :=
      if 0 ≤ shift then Double.divRoundEven (units * Nat.pow 10 shift.toNat) one
      else Double.divRoundEven units (one * Nat.pow 10 (-shift).toNat)
    if digits = Nat.pow 10 (places + 1) then (digits / 10, power + 1) else (digits, power)

/-- An exponent with its sign and at least two digits. -/
def exponentText (power : Int) : List Char :=
  let digits := digitsOf 10 false power.natAbs
  (if power < 0 then '-' else '+') :: (List.replicate (2 - digits.length) '0' ++ digits)

/-- A value in units as one digit, places after the point and an exponent. -/
def exponentDigits (alternate : Bool) (units places : Nat) : List Char :=
  let (digits, power) := significant units places
  let digits := digitsOf 10 false digits
  let digits := List.replicate (places + 1 - digits.length) '0' ++ digits
  digits.take 1 ++ (if places = 0 && !alternate then [] else ['.']) ++ digits.drop 1 ++
    'e' :: exponentText power

/-- Digits without the zeros, and the point, that end their fraction. -/
def withoutZeros (digits : List Char) : List Char :=
  let mantissa := digits.takeWhile (· ≠ 'e')
  let exponent := digits.dropWhile (· ≠ 'e')
  if mantissa.contains '.' then
    let kept := (mantissa.reverse.dropWhile (· = '0')).reverse
    (if kept.getLast? = some '.' then kept.dropLast else kept) ++ exponent
  else digits

/-- A value in units with a number of significant digits, written with an exponent where that is
shorter. -/
def generalDigits (alternate : Bool) (units precision : Nat) : List Char :=
  let precision := max precision 1
  let (_, power) := significant units (precision - 1)
  let digits :=
    if power < -4 ∨ precision ≤ power then exponentDigits alternate units (precision - 1)
    else fixedDigits alternate units (precision - 1 - power).toNat
  if alternate then digits else withoutZeros digits

/-- A double by its conversion. -/
def double (flags : List Char) (width : Nat) (precision : Option Nat) (conversion : Char)
    (x : Double) : List Char :=
  let places := precision.getD 6
  let alternate := flags.contains '#'
  let digits :=
    match conversion.toLower with
    | 'e' => exponentDigits alternate x.units places
    | 'g' => generalDigits alternate x.units places
    | _ => fixedDigits alternate x.units places
  let digits := if conversion.isUpper then digits.map Char.toUpper else digits
  paddedNumber flags width true (signOf flags x.negative) digits

end Directive

/-! ### Reading arguments -/

namespace Directive

/-- The complaint about an argument of which a rest was not read. -/
def restComplaint (argument : String) (rest : List Char) (read : Bool) : Option String :=
  if rest.isEmpty then none
  else if read then some (argument ++ ": not completely converted")
  else some (argument ++ ": expected numeric value")

/-- The integer of an argument; after a quote it is the number of the next octet. -/
def integerOf (signed : Bool) (argument : String) : Int × Option String :=
  match argument.toList with
  | '"' :: rest | '\'' :: rest => ((rest.head?.elim 0 fun c => (c.toNat : Int)), none)
  | octets =>
    let text := octets.dropWhile isSpace
    let (negative, digits) :=
      match text with
      | '-' :: rest => (true, rest)
      | '+' :: rest => (false, rest)
      | rest => (false, rest)
    if (digits.head?.map Char.isDigit).getD false then
      let (n, rest) := Expression.natural digits
      let value : Int := if negative then -n else n
      let outOfRange := argument ++ ": Numerical result out of range"
      let complaint := restComplaint argument rest true
      if signed then
        let clamped := max (-Expression.greatest - 1) (min Expression.greatest value)
        (clamped, if clamped = value then complaint else complaint.or (some outOfRange))
      else if fitsUnsigned64 n then (value % 18446744073709551616, complaint)
      else (18446744073709551615, complaint.or (some outOfRange))
    else (0, restComplaint argument octets false)

/-- What the number of an argument comes to: a double, or an infinity with a sign. -/
inductive Value where
  | finite (x : Double)
  | infinite (negative : Bool)

/-- A value by its conversion. -/
def value (flags : List Char) (width : Nat) (precision : Option Nat) (conversion : Char) :
    Value → List Char
  | .finite x => double flags width precision conversion x
  | .infinite negative =>
    let text := if conversion.isUpper then ['I', 'N', 'F'] else ['i', 'n', 'f']
    paddedNumber flags width false (signOf flags negative) text

/-- The value of the number of an argument. -/
def valueOf (argument : String) : Value × Option String :=
  match argument.toList with
  | '"' :: rest | '\'' :: rest =>
    (.finite (Double.ofInt (rest.head?.elim 0 fun c => (c.toNat : Int))), none)
  | octets =>
    let text := octets.dropWhile isSpace
    let (negative, digits) :=
      match text with
      | '-' :: rest => (true, rest)
      | '+' :: rest => (false, rest)
      | rest => (false, rest)
    let whole := digits.takeWhile Char.isDigit
    let rest := digits.dropWhile Char.isDigit
    let (fraction, rest) :=
      match rest with
      | '.' :: more => (more.takeWhile Char.isDigit, more.dropWhile Char.isDigit)
      | rest => ([], rest)
    if whole.isEmpty && fraction.isEmpty then
      (.finite Double.zero, restComplaint argument octets false)
    else
      let (exponent, rest) :=
        match rest with
        | e :: more =>
          let (minus, count) :=
            match more with
            | '-' :: count => (true, count)
            | '+' :: count => (false, count)
            | count => (false, count)
          if e.toLower = 'e' && (count.head?.map Char.isDigit).getD false then
            let n : Int := min 5000 (decimalValue (count.takeWhile Char.isDigit))
            (if minus then -n else n, count.dropWhile Char.isDigit)
          else (0, rest)
        | [] => (0, [])
      let power : Int := exponent - fraction.length
      let n := decimalValue (whole ++ fraction)
      let value? :=
        if 0 ≤ power then Double.ofRatio? negative (n * Nat.pow 10 power.toNat) 1
        else Double.ofRatio? negative n (Nat.pow 10 (-power).toNat)
      let complaint := restComplaint argument rest true
      match value? with
      | some x => (.finite x, complaint)
      | none =>
        (.infinite negative, complaint.or (some (argument ++ ": Numerical result out of range")))

end Directive

/-! ### Writing with a format -/

/-- What was written with a format so far. -/
structure Printed where
  arguments : List String
  /-- The octets written and the complaints, each latest first. -/
  output : List Char
  complaints : List String
  /-- Whether an escape ended the output, and the fault in the format that did. -/
  stopped : Bool
  fault : Option String

namespace Printed

/-- The next argument, or nothing. -/
def takeArgument (printed : Printed) : Option String × Printed :=
  (printed.arguments.head?, { printed with arguments := printed.arguments.drop 1 })

/-- The output with more octets. -/
def add (printed : Printed) (octets : List Char) : Printed :=
  { printed with output := octets.reverse ++ printed.output }

/-- The output with a complaint. -/
def complain (printed : Printed) (complaint : Option String) : Printed :=
  { printed with complaints := complaint.toList ++ printed.complaints }

/-- The number of a directive. -/
def measure (printed : Printed) : Option Measure → Option Int × Printed
  | none => (none, printed)
  | some (.fixed n) => (some n, printed)
  | some .argument =>
    let (argument, printed) := printed.takeArgument
    let (n, complaint) := Directive.integerOf true (argument.getD "")
    (some n, printed.complain complaint)

/-- The output after an argument is written by a directive. -/
def write (printed : Printed) (directive : Directive) : Printed :=
  let (width, printed) := printed.measure directive.width
  let (precision, printed) := printed.measure directive.precision
  let width := width.getD 0
  let flags := if width < 0 then '-' :: directive.flags else directive.flags
  let precision := precision.bind fun n => if n < 0 then none else some n.toNat
  let (argument?, printed) := printed.takeArgument
  let argument := argument?.getD ""
  let padded (text : List Char) : List Char :=
    Directive.padded (flags.contains '-') width.natAbs text
  let cut (text : List Char) : List Char := precision.elim text text.take
  match directive.conversion with
  | 's' => printed.add (padded (cut argument.toList))
  | 'c' => printed.add (padded [argument.toList.headD '\x00'])
  | 'b' =>
    let (text, stopped) := Escape.text argument
    { printed.add (padded (cut text.toList)) with stopped := stopped || printed.stopped }
  | c =>
    if ['d', 'i', 'o', 'u', 'x', 'X'].contains c then
      let (n, complaint) := Directive.integerOf (c = 'd' || c = 'i') argument
      (printed.complain complaint).add (Directive.integer flags width.natAbs precision c n)
    else
      let (x, complaint) := Directive.valueOf argument
      (printed.complain complaint).add (Directive.value flags width.natAbs precision c x)

/-- The output after a part of a format. -/
def step (printed : Printed) (part : FormatPart) : Printed :=
  if printed.stopped || printed.fault.isSome then printed
  else
    match part with
    | .octet c => printed.add [c]
    | .directive directive => printed.write directive
    | .invalid text => { printed with fault := some (text ++ ": invalid directive") }
    | .unfinished => { printed with fault := some "missing format character" }

/-- The output of a format that is used until no argument is left, at most `limit` times. -/
def repeated (parts : List FormatPart) : Nat → Printed → Printed
  | 0, printed => printed
  | limit + 1, printed =>
    let count := printed.arguments.length
    let printed := parts.foldl step printed
    if printed.stopped || printed.fault.isSome || printed.arguments.isEmpty ||
        printed.arguments.length = count then printed
    else repeated parts limit printed

/-- The output of a format with arguments. -/
def ofFormat (format : String) (arguments : List String) : Printed :=
  repeated (FormatPart.ofText format) (arguments.length + 1) ⟨arguments, [], [], false, none⟩

end Printed

end Shell

end RecordWatch
