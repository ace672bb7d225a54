import RecordWatch.Shell.Arithmetic
import RecordWatch.Shell.Format
import RecordWatch.Shell.Pattern
import RecordWatch.Shell.Tool

/-! Programs that copy, cut, count and order lines. -/

namespace RecordWatch

namespace Shell

namespace Tool

open Process

/-! ### Whole texts -/

/-- Numbers lines from a number on, those that satisfy `counted`. -/
def numbered (counted : String → Bool) : Nat → List String → List String
  | _, [] => []
  | n, line :: rest =>
    if counted line then
      (rightAligned 6 (toString n) ++ "\t" ++ line) :: numbered counted (n + 1) rest
    else line :: numbered counted n rest

/-- Copies what it reads. -/
def cat : Tool :=
  withOptions "cat" ⟨['n', 'b', 's', 'u', 'E', 'T', 'A', 'v'], [], [("number", 'n')]⟩ 1
    fun arguments => do
      let (read, status) ← contents "cat" plainly 1 arguments.operands
      let text := String.join (read.map Prod.snd)
      let lines := Octets.fullLines text
      let lines :=
        if arguments.isGiven 'b' then numbered (· ≠ "\n") 1 lines
        else if arguments.isGiven 'n' then numbered (fun _ => true) 1 lines
        else lines
      let lines :=
        if arguments.isGiven 'E' || arguments.isGiven 'A' then
          lines.map fun line => line.replace "\n" "$\n"
        else lines
      say (String.join lines)
      return status

/-- The words for what `head` and `tail` cannot read. -/
def openingWords (path reason : String) : String :=
  if reason = "Is a directory" then "error reading '" ++ path ++ "': " ++ reason
  else "cannot open '" ++ path ++ "' for reading: " ++ reason

/-- Words whose first is a dash and a number, with the number made a count. -/
def withCount : List String → List String
  | word :: rest =>
    match word.toList with
    | '-' :: c :: more =>
      if (c :: more).all Char.isDigit then "-n" :: String.ofList (c :: more) :: rest
      else word :: rest
    | _ => word :: rest
  | [] => []

/-- Writes a part of everything that it reads, with the name of each file if there are several. -/
def parts (name : String) (take : Bool → Char → Nat → List String → List String) : Tool :=
  fun words =>
    withOptions name
      ⟨['q', 'v', 'f', 'z'], ['n', 'c'], [("lines", 'n'), ("bytes", 'c'), ("quiet", 'q')]⟩ 1
      (fun arguments => do
        let bytes := arguments.isGiven 'c'
        let given := (arguments.value? (if bytes then 'c' else 'n')).getD "10"
        let sign := given.toList.headD '0'
        let digits := if sign = '-' || sign = '+' then (given.drop 1).toString else given
        withNumber name (if bytes then "number of bytes" else "number of lines") digits fun n => do
          let (read, status) ← contents name openingWords 1 arguments.operands
          let several := arguments.operands.length > 1 && !arguments.isGiven 'q'
          read.zipIdx.forM fun ((path, text), i) => do
            if several then
              let shown := if path = "-" then "standard input" else path
              say ((if i = 0 then "" else "\n") ++ "==> " ++ shown ++ " <==\n")
            let units := if bytes then text.toList.map String.singleton else Octets.fullLines text
            say (String.join (take bytes sign n units))
          return status)
      (withCount words)

/-- Writes the first lines of everything that it reads, or all but the last. -/
def head : Tool :=
  parts "head" fun _ sign n units =>
    if sign = '-' then units.take (units.length - n) else units.take n

/-- Writes the last lines of everything that it reads, or those from a line on. -/
def tail : Tool :=
  parts "tail" fun _ sign n units =>
    if sign = '+' then units.drop (n - 1) else units.drop (units.length - n)

/-- The number of words of a text. -/
def wordCount (text : String) : Nat :=
  (text.toList.foldl (fun (count, inside) c =>
    if isSpace c then (count, false) else (if inside then count else count + 1, true))
    ((0, false) : Nat × Bool)).1

/-- Counts lines, words and bytes. -/
def wc : Tool :=
  withOptions "wc" ⟨['l', 'w', 'c', 'm', 'L'], [], [("lines", 'l'), ("words", 'w'), ("bytes", 'c'),
      ("chars", 'm')]⟩ 1 fun arguments => do
    let (read, status) ← contents "wc" plainly 1 arguments.operands
    let all := arguments.options.isEmpty
    let counts (text : String) : List Nat :=
      (if all || arguments.isGiven 'l' then [(text.toList.filter (· = '\n')).length] else []) ++
      (if all || arguments.isGiven 'w' then [wordCount text] else []) ++
      (if arguments.isGiven 'm' then [text.length] else []) ++
      (if all || arguments.isGiven 'c' then [text.length] else []) ++
      (if arguments.isGiven 'L' then
        [(Octets.lines text).foldl (fun n line => max n line.length) 0] else [])
    let columns := (counts "").length
    let p ← get
    let isFile (path : String) : Bool :=
      if path = "-" then
        match (p.stream? 0).bind fun index => p.world.streams[index]?.map Stream.medium with
        | some (.file _) => true
        | _ => false
      else true
    let size := read.foldl (fun n (_, text) => n + text.length) 0
    let width :=
      if columns = 1 && read.length ≤ 1 && arguments.operands.length ≤ 1 then 1
      else if read.all fun (path, _) => isFile path then (toString size).length
      else max 7 (toString size).length
    let line (numbers : List Nat) (name : String) : String :=
      String.intercalate " " (numbers.map fun n => rightAligned width (toString n)) ++
        (if name = "" then "" else " " ++ name) ++ "\n"
    read.forM fun (path, text) =>
      say (line (counts text) (if arguments.operands.isEmpty then "" else path))
    if arguments.operands.length > 1 then
      let totals := read.foldl (fun totals (_, text) => List.zipWith Nat.add totals (counts text))
        (List.replicate columns 0)
      say (line totals "total")
    return status

/-- Copies its input to the output and to files. -/
def tee : Tool :=
  withOptions "tee" ⟨['a', 'i'], [], [("append", 'a')]⟩ 1 fun arguments => do
    let text := (← contentOf "-").toOption.getD ""
    say text
    arguments.operands.foldlM (fun status path => do
      let p ← get
      let old := if arguments.isGiven 'a' then (p.readFile path).toOption.getD "" else ""
      match ← writeFile path (old ++ text) with
      | .ok () => return status
      | .error error => do
        grumble "tee" (plainly path ((← get).reason path error))
        return 1) 0

/-! ### Single lines -/

/-- Turns lines around. -/
def rev : Tool := fun words =>
  onLines "rev" words fun lines => lines.map fun line => String.ofList line.toList.reverse

/-- Turns the order of lines around. -/
def tac : Tool := fun words => do
  let (read, status) ← contents "tac" (fun path reason =>
    "failed to open '" ++ path ++ "' for reading: " ++ reason) 1 words
  read.forM fun (_, text) => say (String.join (Octets.fullLines text).reverse)
  return status

/-- Numbers the lines that are not empty. -/
def nl : Tool :=
  withOptions "nl" ⟨[], ['b'], [("body-numbering", 'b')]⟩ 1 fun arguments => do
    let (read, status) ← contents "nl" plainly 1 arguments.operands
    let all := arguments.value? 'b' = some "a"
    let lines := Octets.lines (String.join (read.map Prod.snd))
    let shown := numbered (fun line => all || line ≠ "") 1 lines
    say (Octets.ofLines (shown.map fun line => if line = "" then "       " else line))
    return status

/-- A line cut into pieces of at most a width. -/
def folded (width : Nat) : Nat → List Char → List String
  | 0, _ => []
  | limit + 1, octets =>
    if octets.length ≤ width then [String.ofList octets]
    else String.ofList (octets.take width) :: folded width limit (octets.drop width)

/-- Breaks long lines. -/
def fold : Tool :=
  withOptions "fold" ⟨['b', 's'], ['w'], [("width", 'w')]⟩ 1 fun arguments =>
    withNumber "fold" "number of columns" ((arguments.value? 'w').getD "80") fun width =>
      onLines "fold" arguments.operands fun lines =>
        lines.flatMap fun line => folded (max width 1) (line.length + 1) line.toList

/-- The ranges of a list of positions, without an end if they go on. -/
def ranges? (text : String) : Option (List (Nat × Option Nat)) :=
  (text.splitOn ",").mapM fun item =>
    match item.splitOn "-" with
    | [single] => (decimal? single).bind fun n => if n = 0 then none else some (n, some n)
    | ["", last] => (decimal? last).map fun n => (1, some n)
    | [first, ""] => (decimal? first).bind fun n => if n = 0 then none else some (n, none)
    | [first, last] => do
      let low ← decimal? first
      let high ← decimal? last
      if low = 0 || high < low then none else some (low, some high)
    | _ => none

/-- What stands at the positions of some ranges. -/
def selected {α : Type} (ranges : List (Nat × Option Nat)) (items : List α) : List α :=
  (items.zipIdx 1).filterMap fun (item, i) =>
    if ranges.any fun (low, high) => low ≤ i && high.all (i ≤ ·) then some item else none

/-- Writes parts of lines. -/
def cut : Tool :=
  withOptions "cut" ⟨['s', 'n'], ['d', 'f', 'c', 'b', 'O'], [("delimiter", 'd'), ("fields", 'f'),
      ("characters", 'c'), ("bytes", 'b'), ("only-delimited", 's'), ("output-delimiter", 'O')]⟩ 1
    fun arguments => do
      match (['f', 'c', 'b'].findSome? arguments.value?) with
      | none => misuse "cut" "you must specify a list of bytes, characters, or fields" 1
      | some list =>
        match ranges? list with
        | none => misuse "cut" ("invalid byte, character or field list") 1
        | some ranges =>
          let delimiter := (arguments.value? 'd').getD "\t"
          let joint := (arguments.value? 'O').getD delimiter
          onLines "cut" arguments.operands fun lines => lines.filterMap fun line =>
            if arguments.isGiven 'f' then
              let fields := line.splitOn delimiter
              if fields.length ≤ 1 then if arguments.isGiven 's' then none else some line
              else some (String.intercalate joint (selected ranges fields))
            else some (String.ofList (selected ranges line.toList))

/-- Joins the lines of files side by side, or those of each file. -/
def paste : Tool :=
  withOptions "paste" ⟨['s'], ['d'], [("serial", 's'), ("delimiters", 'd')]⟩ 1 fun arguments => do
    let (read, status) ← contents "paste" plainly 1 arguments.operands
    let joint := (Escape.text ((arguments.value? 'd').getD "\t")).1
    let columns := read.map fun (_, text) => Octets.lines text
    if arguments.isGiven 's' then
      columns.forM fun lines => say (String.intercalate joint lines ++ "\n")
    else
      let height := columns.foldl (fun n lines => max n lines.length) 0
      (List.range height).forM fun i =>
        say (String.intercalate joint (columns.map fun lines => (lines[i]?).getD "") ++ "\n")
    return status

/-! ### Sets of octets -/

/-- The octets of a set, at most `limit` members of it. -/
def setOctets : Nat → List Char → List Char
  | 0, _ => []
  | _, [] => []
  | limit + 1, c :: rest =>
    let named := (rest.drop 1).takeWhile Char.isLower
    match c, rest, (rest.drop 1).drop named.length with
    | '[', ':' :: _, ':' :: ']' :: after =>
      match octetClass? (String.ofList named) with
      | some holds =>
        ((List.range 256).map Char.ofNat).filter holds ++ setOctets limit after
      | none => c :: setOctets limit rest
    | _, _, _ =>
      let (first, rest) := if c = '\\' then Escape.read rest else (c, rest)
      match rest with
      | '-' :: last :: after =>
        let (last, after) := if last = '\\' then Escape.read after else (last, after)
        (List.range (last.toNat + 1 - first.toNat)).map (fun i => Char.ofNat (first.toNat + i)) ++
          setOctets limit after
      | rest => first :: setOctets limit rest

/-- Octets with runs of the same octet of a set made one. -/
def squeezed (set : List Char) : List Char → List Char
  | a :: b :: rest =>
    if a = b && set.contains a then squeezed set (b :: rest) else a :: squeezed set (b :: rest)
  | rest => rest

/-- Replaces, deletes or squeezes octets. -/
def tr : Tool :=
  withOptions "tr" ⟨['d', 's', 'c', 'C', 't'], [], [("delete", 'd'), ("squeeze-repeats", 's'),
      ("complement", 'c')]⟩ 1 fun arguments => do
    let sets := arguments.operands.map fun text => setOctets (text.length + 1) text.toList
    let complement (set : List Char) : List Char :=
      if arguments.isGiven 'c' || arguments.isGiven 'C' then
        ((List.range 256).map Char.ofNat).filter fun c => !set.contains c
      else set
    let deletes := arguments.isGiven 'd'
    let squeezes := arguments.isGiven 's'
    let input := (← contentOf "-").toOption.getD ""
    match sets with
    | [] => misuse "tr" "missing operand" 1
    | [set] =>
      let set := complement set
      if deletes then say (String.ofList (input.toList.filter fun c => !set.contains c))
      else if squeezes then say (String.ofList (squeezed set input.toList))
      else
        let _ ← misuse "tr" ("missing operand after '" ++ arguments.operands.headD "" ++
          "'\nTwo strings must be given when translating.") 1
        return 1
      return 0
    | set :: second :: _ =>
      let set := complement set
      if deletes then
        let kept := input.toList.filter fun c => !set.contains c
        say (String.ofList (if squeezes then squeezed second kept else kept))
      else
        let last := second.getLast?.getD ' '
        let table := set.zip (second ++ List.replicate (set.length - second.length) last)
        let table := table.reverse
        let changed := input.toList.map fun c => (table.lookup c).getD c
        say (String.ofList (if squeezes then squeezed second changed else changed))
      return 0

/-! ### Order -/

/-- How a key is compared. -/
structure KeyOrder where
  first : Nat × Nat
  last : Option Nat
  numeric : Bool
  reversed : Bool
  folded : Bool
  blanks : Bool

/-- The number that a text begins with, in billionths. -/
def leadingNumber (text : String) : Int :=
  let octets := text.toList.dropWhile isSpace
  let (negative, digits) :=
    match octets with
    | '-' :: rest => (true, rest)
    | rest => (false, rest)
  let whole := decimalValue (digits.takeWhile Char.isDigit)
  let fraction :=
    match digits.dropWhile Char.isDigit with
    | '.' :: rest => ((rest.takeWhile Char.isDigit) ++ List.replicate 9 '0').take 9
    | _ => List.replicate 9 '0'
  let value : Int := whole * 1000000000 + decimalValue fraction
  if negative then -value else value

/-- The fields of a line: without a separator, each begins with the blanks before it. -/
def sortFields (separator : Option String) (line : String) : List String :=
  match separator with
  | some separator => line.splitOn separator
  | none =>
    let (fields, current) := line.toList.foldl (fun (fields, current) c =>
      let starts := (c = ' ' || c = '\t') && (current : List Char).any fun d => d ≠ ' ' && d ≠ '\t'
      if starts then (String.ofList current.reverse :: fields, [c]) else (fields, c :: current))
      (([], []) : List String × List Char)
    (String.ofList current.reverse :: fields).reverse

/-- The key of a line. -/
def keyOf (separator : Option String) (order : KeyOrder) (line : String) : String :=
  if order.first = (0, 0) then line
  else
    let fields := sortFields separator line
    let (field, offset) := order.first
    let kept := fields.drop (field - 1)
    let kept := order.last.elim kept fun last => kept.take (last + 1 - field)
    let key := String.intercalate (separator.getD "") kept
    let key := if order.blanks then String.ofList (key.toList.dropWhile isSpace) else key
    (key.drop (offset - 1)).toString

/-- The order of two lines by a key. -/
def compareBy (separator : Option String) (order : KeyOrder) (a b : String) : Ordering :=
  let a := keyOf separator order a
  let b := keyOf separator order b
  let result :=
    if order.numeric then compare (leadingNumber a) (leadingNumber b)
    else if order.folded then compare a.toUpper b.toUpper
    else compare a b
  if order.reversed then result.swap else result

/-- The key that an option gives; letters after the positions say how it is compared. -/
def keyOrder? (base : KeyOrder) (text : String) : Option KeyOrder := do
  let position (part : String) : Option (Nat × Nat × List Char) :=
    let field := part.toList.takeWhile Char.isDigit
    let rest := part.toList.dropWhile Char.isDigit
    let (offset, rest) :=
      match rest with
      | '.' :: rest => (rest.takeWhile Char.isDigit, rest.dropWhile Char.isDigit)
      | rest => (['1'], rest)
    if field.isEmpty then none
    else some (decimalValue field, max 1 (decimalValue offset), rest)
  let (first, last) ←
    match text.splitOn "," with
    | [first] => some (first, none)
    | [first, last] => some (first, some last)
    | _ => none
  let (field, offset, letters) ← position first
  let (last, more) ←
    match last with
    | none => some (none, [])
    | some last => (position last).map fun (field, _, letters) => (some field, letters)
  let letters := letters ++ more
  let own := !letters.isEmpty
  return { base with
    first := (field, offset)
    last := last
    numeric := if own then letters.contains 'n' || letters.contains 'g' else base.numeric
    reversed := if own then letters.contains 'r' else base.reversed
    folded := if own then letters.contains 'f' else base.folded
    blanks := if own then letters.contains 'b' else base.blanks }

/-- Orders lines. -/
def sort : Tool :=
  withOptions "sort" ⟨['r', 'n', 'u', 'f', 'b', 'g', 's', 'c', 'd', 'i', 'h', 'V'],
      ['k', 't', 'o', 'S', 'T'], [("reverse", 'r'), ("numeric-sort", 'n'), ("unique", 'u'),
      ("key", 'k'), ("field-separator", 't'), ("output", 'o'), ("ignore-case", 'f'),
      ("stable", 's')]⟩ 2 fun arguments => do
    let base : KeyOrder :=
      { first := (0, 0), last := none
        numeric := arguments.isGiven 'n' || arguments.isGiven 'g'
        reversed := arguments.isGiven 'r'
        folded := arguments.isGiven 'f'
        blanks := arguments.isGiven 'b' }
    match (arguments.values 'k').mapM (keyOrder? base) with
    | none => do
      grumble "sort" "invalid number at field start"
      return 2
    | some keys =>
      let keys := if keys.isEmpty then [base] else keys
      let (read, status) ← contents "sort" (fun path reason => "cannot read: " ++ path ++ ": " ++
        reason) 2 arguments.operands
      if status ≠ 0 then return status
      let separator := arguments.value? 't'
      let byKeys (a b : String) : Ordering :=
        keys.foldl (fun result key => result.then (compareBy separator key a b)) .eq
      let unique := arguments.isGiven 'u'
      let order (a b : String) : Ordering :=
        if unique || arguments.isGiven 's' then byKeys a b
        else
          let whole := compare a b
          (byKeys a b).then (if base.reversed then whole.swap else whole)
      let lines := read.flatMap fun (_, text) => Octets.lines text
      let sorted := lines.mergeSort fun a b => order a b ≠ .gt
      let kept := if unique then
          (sorted.foldl (fun (kept : List String) line =>
            if kept.head?.any fun last => byKeys last line = .eq then kept else line :: kept)
            []).reverse
        else sorted
      if arguments.isGiven 'c' then
        return if sorted = lines then 0 else 1
      match arguments.value? 'o' with
      | none => say (Octets.ofLines kept)
      | some path =>
        let _ ← writeFile path (Octets.ofLines kept)
      return 0

/-- Runs of lines that count as the same, each with its first line and its length. -/
def runs (same : String → String → Bool) (lines : List String) : List (String × Nat) :=
  (lines.foldl (fun (kept : List (String × Nat)) line =>
    match kept with
    | (last, count) :: rest =>
      if same last line then (last, count + 1) :: rest else (line, 1) :: kept
    | [] => [(line, 1)]) []).reverse

/-- Writes lines that follow each other only once. -/
def uniq : Tool :=
  withOptions "uniq" ⟨['c', 'd', 'u', 'i'], [], [("count", 'c'), ("repeated", 'd'),
      ("unique", 'u'), ("ignore-case", 'i')]⟩ 1 fun arguments => do
    let (read, status) ← contents "uniq" plainly 1 (arguments.operands.take 1)
    let same (a b : String) : Bool :=
      if arguments.isGiven 'i' then a.toLower = b.toLower else a = b
    let runs := runs same (read.flatMap fun (_, text) => Octets.lines text)
    let runs := if arguments.isGiven 'd' then runs.filter fun run => run.2 > 1 else runs
    let runs := if arguments.isGiven 'u' then runs.filter fun run => run.2 = 1 else runs
    say (Octets.ofLines (runs.map fun (line, count) =>
      if arguments.isGiven 'c' then rightAligned 7 (toString count) ++ " " ++ line else line))
    return status

/-! ### Numbers -/

/-- A decimal number: its value in units of the last place, and the number of places. -/
def decimalNumber? (text : String) : Option (Int × Nat) :=
  let (negative, digits) :=
    match text.toList with
    | '-' :: rest => (true, rest)
    | '+' :: rest => (false, rest)
    | rest => (false, rest)
  let whole := digits.takeWhile Char.isDigit
  let fraction? :=
    match digits.dropWhile Char.isDigit with
    | [] => some []
    | '.' :: rest => if rest.all Char.isDigit then some rest else none
    | _ => none
  fraction?.bind fun fraction =>
    if whole.isEmpty && fraction.isEmpty then none
    else
      let value : Int := decimalValue (whole ++ fraction)
      some (if negative then -value else value, fraction.length)

/-- A decimal number in units of a last place. -/
def scaled (places : Nat) (number : Int × Nat) : Int :=
  number.1 * Nat.pow 10 (places - number.2)

/-- A number in units of the last place, written out. -/
def writtenNumber (places : Nat) (value : Int) : String :=
  let digits := Nat.toDigits 10 value.natAbs
  let digits := List.replicate (places + 1 - digits.length) '0' ++ digits
  let whole := digits.take (digits.length - places)
  (if value < 0 then "-" else "") ++ String.ofList whole ++
    (if places = 0 then "" else "." ++ String.ofList (digits.drop whole.length))

/-- The numbers from a first to a last one by a step, at most `limit` of them. -/
def progression (step last : Int) : Nat → Int → List Int
  | 0, _ => []
  | limit + 1, value =>
    if (0 < step && last < value) || (step < 0 && value < last) then []
    else value :: progression step last limit (value + step)

/-- Writes numbers in order. -/
def seq : Tool := fun words => do
  let (joint, wide, operands) := options "\n" false words
  match operands.mapM decimalNumber? with
  | none =>
    misuse "seq" ("invalid floating point argument: '" ++
      ((operands.find? fun text => (decimalNumber? text).isNone).getD "") ++ "'") 1
  | some numbers =>
    match numbers with
    | [] => misuse "seq" "missing operand" 1
    | [last] => run joint wide (1, 0) (1, 0) last
    | [first, last] => run joint wide first (1, 0) last
    | first :: step :: last :: _ => run joint wide first step last
where
  /-- What stands between the numbers, whether they get the same width, and the operands. -/
  options (joint : String) (wide : Bool) : List String → String × Bool × List String
    | "-w" :: rest => options joint true rest
    | "-s" :: joint :: rest => options joint wide rest
    | "--" :: rest => (joint, wide, rest)
    | word :: rest =>
      if word.startsWith "-s" then options (word.drop 2).toString wide rest
      else (joint, wide, word :: rest)
    | [] => (joint, wide, [])
  /-- Writes the numbers of a progression. -/
  run (joint : String) (wide : Bool) (first step last : Int × Nat) : Step Nat := do
    let places := max first.2 step.2
    let common := max places last.2
    let values := progression (scaled common step) (scaled common last) 100000 (scaled common first)
    let shown := values.map fun value =>
      writtenNumber places (value / (Nat.pow 10 (common - places) : Int))
    let width := shown.foldl (fun n text => max n text.length) 0
    let padded (text : String) : String :=
      if wide then
        let digits := text.toList.dropWhile (· = '-')
        let sign := if text.startsWith "-" then "-" else ""
        sign ++ String.ofList (List.replicate (width - text.length) '0' ++ digits)
      else text
    if scaled common step = 0 then
      grumble "seq" "invalid Zero increment value: '0'"
      return 1
    if !shown.isEmpty then say (String.intercalate joint (shown.map padded) ++ "\n")
    return 0

end Tool

end Shell

end RecordWatch
