import RecordWatch.Shell.Octets

/-! Patterns: an asterisk stands for anything, a question mark for one octet and brackets for one
octet of a set. Quoted octets stand for themselves. -/

namespace RecordWatch

namespace Shell

/-- An octet of an expanded word, which is no part of a pattern if it is quoted. -/
structure Marked where
  octet : Char
  quoted : Bool
deriving DecidableEq

namespace Marked

/-- Octets as they stand. -/
def text (octets : List Marked) : String := String.ofList (octets.map Marked.octet)

/-- Whether an octet is a given one and not quoted. -/
def isBare (c : Char) (m : Marked) : Bool := m.octet = c && !m.quoted

end Marked

/-- The named classes of octets. -/
def octetClass? : String → Option (Char → Bool)
  | "alpha" => some Char.isAlpha
  | "digit" => some Char.isDigit
  | "alnum" => some Char.isAlphanum
  | "upper" => some Char.isUpper
  | "lower" => some Char.isLower
  | "space" => some isSpace
  | "blank" => some fun c => c = ' ' || c = '\t'
  | "punct" => some fun c => '!' ≤ c && c ≤ '~' && !c.isAlphanum
  | "print" => some fun c => ' ' ≤ c && c ≤ '~'
  | "graph" => some fun c => '!' ≤ c && c ≤ '~'
  | "cntrl" => some fun c => c < ' ' || c = '\x7f'
  | "xdigit" => some fun c =>
    c.isDigit || ('a' ≤ c && c ≤ 'f') || ('A' ≤ c && c ≤ 'F')
  | _ => none

/-- A member of a set of octets. -/
inductive Member where
  | range (first last : Char)
  | named (holds : Char → Bool)

namespace Member

/-- Whether an octet belongs to the member. -/
def holds (c : Char) : Member → Bool
  | .range first last => first ≤ c && c ≤ last
  | .named holds => holds c

/-- The class that is named before `:]`, with what follows it. -/
def class? (octets : List Marked) : Option ((Char → Bool) × List Marked) :=
  let name := octets.takeWhile fun m => m.octet.isLower
  match octets.dropWhile fun m => m.octet.isLower with
  | ⟨':', _⟩ :: ⟨']', _⟩ :: rest => (octetClass? (Marked.text name)).map fun holds => (holds, rest)
  | _ => none

/-- The members of a set up to its bracket, and what follows that. A bracket that comes first is a
member. -/
def readAll? : Nat → Bool → List Marked → Option (List Member × List Marked)
  | 0, _, _ => none
  | _, _, [] => none
  | limit + 1, first, m :: rest =>
    if m.isBare ']' && !first then some ([], rest)
    else
      let (member, rest) :=
        match (if m.isBare '[' then rest else []) with
        | ⟨':', _⟩ :: after =>
          match class? after with
          | some (holds, rest) => (Member.named holds, rest)
          | none => range m.octet rest
        | _ => range m.octet rest
      (readAll? limit false rest).map fun (members, rest) => (member :: members, rest)
where
  /-- A member that begins with an octet, and what follows it. -/
  range (c : Char) : List Marked → Member × List Marked
    | dash :: last :: rest =>
      if dash.isBare '-' && !last.isBare ']' then (.range c last.octet, rest)
      else (.range c c, dash :: last :: rest)
    | rest => (.range c c, rest)

end Member

/-- A part of a pattern. -/
inductive Glob where
  | octet (c : Char)
  | any
  | one
  | set (negated : Bool) (members : List Member)

namespace Glob

/-- The pattern of octets. A bracket that opens no set stands for itself. -/
def ofMarked (octets : List Marked) : List Glob := go (octets.length + 1) octets
where
  /-- The pattern of octets, which has at most `limit` parts. -/
  go : Nat → List Marked → List Glob
    | 0, _ => []
    | _, [] => []
    | limit + 1, m :: rest =>
      if m.quoted then .octet m.octet :: go limit rest
      else if m.octet = '*' then .any :: go limit rest
      else if m.octet = '?' then .one :: go limit rest
      else if m.octet = '[' then
        let (negated, inside) :=
          match rest with
          | ⟨'!', false⟩ :: inside | ⟨'^', false⟩ :: inside => (true, inside)
          | inside => (false, inside)
        match Member.readAll? (rest.length + 1) true inside with
        | some (members, rest) => .set negated members :: go limit rest
        | none => .octet '[' :: go limit rest
      else .octet m.octet :: go limit rest

/-- Whether a pattern matches octets as a whole. -/
def isMatch : List Glob → List Char → Bool
  | [], [] => true
  | [], _ :: _ => false
  | .any :: globs, octets => (isMatch globs octets) || (anyMatch globs octets)
  | .octet c :: globs, d :: octets => c = d && isMatch globs octets
  | .one :: globs, _ :: octets => isMatch globs octets
  | .set negated members :: globs, d :: octets =>
    (members.any (Member.holds d) != negated) && isMatch globs octets
  | _ :: _, [] => false
where
  /-- Whether a pattern matches what is left after at least one octet. -/
  anyMatch (globs : List Glob) : List Char → Bool
    | [] => false
    | _ :: octets => isMatch globs octets || anyMatch globs octets

/-- Whether octets hold a pattern that is not quoted. -/
def isPattern (octets : List Marked) : Bool :=
  octets.any fun m => !m.quoted && ['*', '?', '['].contains m.octet

/-- The octets without the shortest or the longest start that a pattern matches. -/
def cutStart (globs : List Glob) (longest : Bool) (octets : List Char) : List Char :=
  let lengths := List.range (octets.length + 1)
  let lengths := if longest then lengths.reverse else lengths
  match lengths.find? fun n => isMatch globs (octets.take n) with
  | some n => octets.drop n
  | none => octets

/-- The octets without the shortest or the longest end that a pattern matches. -/
def cutEnd (globs : List Glob) (longest : Bool) (octets : List Char) : List Char :=
  let lengths := List.range (octets.length + 1)
  let lengths := if longest then lengths else lengths.reverse
  match lengths.find? fun n => isMatch globs (octets.drop n) with
  | some n => octets.take n
  | none => octets

end Glob

end Shell

end RecordWatch
