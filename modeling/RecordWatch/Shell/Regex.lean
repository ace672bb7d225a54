import RecordWatch.Shell.Arithmetic
import RecordWatch.Shell.Pattern

/-! Regular expressions in their basic and extended forms, matched leftmost and longest. -/

namespace RecordWatch

namespace Shell

/-- A regular expression. -/
inductive Regex where
  | empty
  | octet (c : Char)
  | any
  | oneOf (negated : Bool) (members : List Member)
  | lineStart
  | lineEnd
  | wordStart
  | wordEnd
  | boundary (wanted : Bool)
  | group (index : Nat) (body : Regex)
  | same (index : Nat)
  | repeated (body : Regex) (low : Nat) (high : Option Nat)
  | both (first second : Regex)
  | either (first second : Regex)

namespace Regex

/-! ### Reading -/

/-- A token of an expression. -/
inductive Token where
  | opening
  | closing
  | bar
  | bounds (low : Nat) (high : Option Nat)
  | atom (regex : Regex)

/-- The bounds of a repetition between braces, and what follows the closing one. -/
def bounds? (extended : Bool) (octets : List Char) : Option (Nat × Option Nat × List Char) :=
  let low := octets.takeWhile Char.isDigit
  let rest := octets.dropWhile Char.isDigit
  let (high, rest) :=
    match rest with
    | ',' :: rest =>
      let digits := rest.takeWhile Char.isDigit
      (if digits.isEmpty then none else some (Expression.digitsValue 10 digits),
        rest.dropWhile Char.isDigit)
    | rest => (some (Expression.digitsValue 10 low), rest)
  let low := Expression.digitsValue 10 low
  match rest, extended with
  | '\x7d' :: rest, true => some (low, high, rest)
  | '\\' :: '\x7d' :: rest, false => some (low, high, rest)
  | _, _ => none

/-- The letters and digits of words. -/
def wordMembers : List Member := [.named isNameChar]

/-- The meaning of an escaped octet that stands for no operator. -/
def escaped (c : Char) : Regex :=
  if '1' ≤ c && c ≤ '9' then .same (c.toNat - 48)
  else
    match c with
    | 'n' => .octet '\n'
    | 't' => .octet '\t'
    | 'w' => .oneOf false wordMembers
    | 'W' => .oneOf true wordMembers
    | 's' => .oneOf false [.named isSpace]
    | 'S' => .oneOf true [.named isSpace]
    | 'b' => .boundary true
    | 'B' => .boundary false
    | '<' => .wordStart
    | '>' => .wordEnd
    | c => .octet c

/-- Whether a token leaves nothing before it that could be repeated. -/
def beginsPart : Option Token → Bool
  | none | some .opening | some .bar => true
  | some (.atom .lineStart) => true
  | _ => false

/-- The tokens of an expression, at most `limit` of them, after a last one. -/
def tokens (extended : Bool) : Nat → Option Token → List Char → List Token
  | 0, _, _ => []
  | _, _, [] => []
  | limit + 1, last, c :: rest =>
    let first := beginsPart last
    let (token, rest) : Token × List Char :=
      match c, rest with
      | '\\', d :: after =>
        if !extended && d = '(' then (.opening, after)
        else if !extended && d = ')' then (.closing, after)
        else if !extended && d = '|' then (.bar, after)
        else if !extended && d = '+' then (.bounds 1 none, after)
        else if !extended && d = '?' then (.bounds 0 (some 1), after)
        else if !extended && d = '\x7b' then
          match bounds? false after with
          | some (low, high, after) => (.bounds low high, after)
          | none => (.atom (.octet d), after)
        else (.atom (escaped d), after)
      | '[', _ =>
        let (negated, inside) :=
          match rest with
          | '\x5e' :: inside => (true, inside)
          | inside => (false, inside)
        match Member.readAll? (rest.length + 1) true (inside.map fun c => ⟨c, false⟩) with
        | some (members, after) => (.atom (.oneOf negated members), after.map Marked.octet)
        | none => (.atom (.octet '['), rest)
      | '.', _ => (.atom .any, rest)
      | '*', _ => if first then (.atom (.octet '*'), rest) else (.bounds 0 none, rest)
      | '\x5e', _ =>
        let begins :=
          match last with
          | none | some .opening | some .bar => true
          | _ => extended
        (.atom (if begins then .lineStart else .octet c), rest)
      | '$', _ =>
        let ends := extended || rest.isEmpty || ['\\', ')'].isPrefixOf rest ||
          ['\\', '|'].isPrefixOf rest
        (.atom (if ends then .lineEnd else .octet c), rest)
      | c, _ =>
        if extended && c = '(' then (.opening, rest)
        else if extended && c = ')' then (.closing, rest)
        else if extended && c = '|' then (.bar, rest)
        else if extended && c = '+' && !first then (.bounds 1 none, rest)
        else if extended && c = '?' && !first then (.bounds 0 (some 1), rest)
        else if extended && c = '\x7b' && !first then
          match bounds? true rest with
          | some (low, high, after) => (.bounds low high, after)
          | none => (.atom (.octet c), rest)
        else (.atom (.octet c), rest)
    token :: tokens extended limit (some token) rest

/-- The tokens that are left, and the number of groups so far. -/
abbrev Reader := StateT (List Token × Nat) Option

/-- An atom with its repetitions, at most `limit` of them. -/
def postfixed : Nat → Regex → Reader Regex
  | 0, regex => return regex
  | limit + 1, regex => do
    match ← get with
    | (.bounds low high :: rest, groups) =>
      set (rest, groups)
      postfixed limit (.repeated regex low high)
    | _ => return regex

/-- A part without bars, at most `limit` atoms of it. -/
def part (inner : Reader Regex) : Nat → Reader Regex
  | 0 => return .empty
  | limit + 1 => do
    match ← get with
    | (.atom regex :: rest, groups) =>
      set (rest, groups)
      let first ← postfixed (rest.length + 1) regex
      return .both first (← part inner limit)
    | (.opening :: rest, groups) =>
      set (rest, groups + 1)
      let body ← inner
      match ← get with
      | (.closing :: rest, more) =>
        set (rest, more)
        let first ← postfixed (rest.length + 1) (.group (groups + 1) body)
        return .both first (← part inner limit)
      | _ => failure
    | (.bounds _ _ :: _, _) => failure
    | _ => return .empty

/-- Parts with bars between them, at most `limit` of them. -/
def alternatives (inner : Reader Regex) (count : Nat) : Nat → Reader Regex
  | 0 => part inner count
  | limit + 1 => do
    let first ← part inner count
    match ← get with
    | (.bar :: rest, groups) =>
      set (rest, groups)
      return .either first (← alternatives inner count limit)
    | _ => return first

/-- An expression of at most `depth` levels of groups. -/
def reader (count : Nat) : Nat → Reader Regex
  | 0 => failure
  | depth + 1 => alternatives (reader count depth) count count

/-- The expression of a text. -/
def ofText? (extended : Bool) (text : String) : Option Regex :=
  let tokens := tokens extended (text.length + 1) none text.toList
  match (reader (tokens.length + 1) (tokens.length + 1)).run (tokens, 0) with
  | some (regex, ([], _)) => some regex
  | _ => none

/-- The expression that matches a text as it is. -/
def ofFixed (text : String) : Regex :=
  text.toList.foldr (fun c regex => .both (.octet c) regex) .empty

/-! ### Matching -/

/-- Where a match has come to, and where its groups begin and end, the latest first. -/
structure Reached where
  position : Nat
  groups : List (Nat × Nat × Nat)

/-- What was reached, each position once. -/
def distinct (reached : List Reached) : List Reached :=
  (reached.foldl (fun (kept : List Reached) r =>
    if kept.any fun other => other.position = r.position then kept else r :: kept) []).reverse

/-- Whether the octet at a position belongs to a word. -/
def isWord (text : Array Char) (position : Nat) : Bool := (text[position]?).any isNameChar

/-- Whether the octet before a position belongs to a word. -/
def isWordBefore (text : Array Char) (position : Nat) : Bool :=
  0 < position && isWord text (position - 1)

/-- What repeating a step reaches, at most `limit` times: of `low` times and more, last first. -/
def repeatedly (step : Reached → List Reached) (low : Nat) (high : Option Nat) :
    Nat → Nat → List Reached → List Reached
  | 0, count, layer => if low ≤ count then layer else []
  | limit + 1, count, layer =>
    let here := if low ≤ count then layer else []
    let next :=
      if high.any (· ≤ count) then []
      else
        distinct (layer.flatMap fun r =>
          (step r).filter fun other => other.position ≠ r.position || count < low)
    if next.isEmpty then here else repeatedly step low high limit (count + 1) next ++ here

/-- Whether two octets count as the same. -/
def sameOctet (fold : Bool) (a b : Char) : Bool := a = b || (fold && a.toLower = b.toLower)

/-- What an expression reaches from where a match has come to, in any case if `fold`. -/
def reaches (text : Array Char) (fold : Bool) : Regex → Reached → List Reached
  | .empty, r => [r]
  | .octet c, r =>
    if (text[r.position]?).any (sameOctet fold c) then [{ r with position := r.position + 1 }]
    else []
  | .any, r => if r.position < text.size then [{ r with position := r.position + 1 }] else []
  | .oneOf negated members, r =>
    let holds (c : Char) : Bool :=
      members.any (Member.holds c) ||
        (fold && (members.any (Member.holds c.toLower) || members.any (Member.holds c.toUpper)))
    if (text[r.position]?).any fun c => holds c != negated then
      [{ r with position := r.position + 1 }]
    else []
  | .lineStart, r => if r.position = 0 then [r] else []
  | .lineEnd, r => if r.position = text.size then [r] else []
  | .wordStart, r =>
    if isWord text r.position && !isWordBefore text r.position then [r] else []
  | .wordEnd, r =>
    if !isWord text r.position && isWordBefore text r.position then [r] else []
  | .boundary wanted, r =>
    if (isWord text r.position != isWordBefore text r.position) = wanted then [r] else []
  | .group index body, r =>
    (reaches text fold body r).map fun reached =>
      { reached with groups := (index, r.position, reached.position) :: reached.groups }
  | .same index, r =>
    match r.groups.lookup index with
    | none => []
    | some (first, last) =>
      let wanted := (text.extract first last).toList
      let found := (text.extract r.position (r.position + wanted.length)).toList
      if wanted.length = found.length && (wanted.zip found).all fun (a, b) => sameOctet fold a b
      then [{ r with position := r.position + wanted.length }]
      else []
  | .repeated body low high, r =>
    repeatedly (reaches text fold body) low high (text.size + low + 1) 0 [r]
  | .both first second, r =>
    distinct ((reaches text fold first r).flatMap (reaches text fold second))
  | .either first second, r => reaches text fold first r ++ reaches text fold second r

/-- The longest match that begins at a position. -/
def longestAt? (text : Array Char) (fold : Bool) (regex : Regex) (position : Nat) :
    Option Reached :=
  (reaches text fold regex ⟨position, []⟩).foldl (fun (best : Option Reached) r =>
    match best with
    | some other => if other.position < r.position then some r else best
    | none => some r) none

/-- The first match that begins at a position or after it: where it begins, and what it reaches. -/
def search? (text : Array Char) (fold : Bool) (regex : Regex) (start : Nat) :
    Option (Nat × Reached) :=
  (List.range (text.size + 1 - start)).findSome? fun offset =>
    (longestAt? text fold regex (start + offset)).map fun r => (start + offset, r)

/-- Whether a text holds a match. -/
def occurs (fold : Bool) (regex : Regex) (text : String) : Bool :=
  (search? text.toList.toArray fold regex 0).isSome

end Regex

end Shell

end RecordWatch
