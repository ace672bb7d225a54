import RecordWatch.Http.Host
import RecordWatch.Text.Lossy

/-! Urls of web requests. A url is taken apart leniently: blanks at its ends and line breaks are
dropped, backslashes count as slashes, dot segments are resolved, and characters that a path cannot
hold are percent-encoded. The fragment is never sent. -/

namespace RecordWatch

/-- A url, its user and its path as they are sent and the pairs of its query decoded. -/
structure Url where
  secure : Bool
  user : Option (String × String)
  host : String
  path : String
  query : List (String × String)

namespace Percent

/-- An upper-case hexadecimal digit. -/
def digit (n : Nat) : Char := if n < 10 then Char.ofNat (48 + n) else Char.ofNat (55 + n)

/-- A byte as a percent sign and two digits. -/
def encodeByte (b : UInt8) : String :=
  String.ofList ['%', digit (b.toNat / 16), digit (b.toNat % 16)]

/-- Characters with the ones that `plain` does not allow percent-encoded. -/
def encode (plain : Char → Bool) (cs : List Char) : String :=
  cs.foldl (fun text c =>
    if plain c then text.push c
    else (String.singleton c).toUTF8.toList.foldl (fun text b => text ++ encodeByte b) text) ""

/-- The bytes of a text with its percent-encoded bytes decoded. -/
def decodeBytes : List UInt8 → List UInt8
  | [] => []
  | [b] => [b]
  | [b, c] => [b, c]
  | a :: b :: c :: rest =>
    if a = 37 then
      match hexadecimalDigit? (Char.ofNat b.toNat), hexadecimalDigit? (Char.ofNat c.toNat) with
      | some high, some low => UInt8.ofNat (high * 16 + low) :: decodeBytes rest
      | _, _ => a :: decodeBytes (b :: c :: rest)
    else a :: decodeBytes (b :: c :: rest)

/-- A text with its percent-encoded bytes decoded. -/
def decode (text : String) : String := Lossy.decode (decodeBytes text.toUTF8.toList)

/-- A text with its percent-encoded bytes decoded, if they are UTF-8. -/
def decode? (text : String) : Option String :=
  String.fromUTF8? (decodeBytes text.toUTF8.toList).toByteArray

end Percent

namespace Url

/-- Whether a path may hold a character as it is. -/
def isPathChar (c : Char) : Bool :=
  '!' ≤ c && c ≤ '~' && !(['"', '#', '<', '>', '?', '\x60', '\x7b', '\x7d'].contains c)

/-- Whether the name or the password of a user may hold a character as it is. -/
def isUserChar (c : Char) : Bool :=
  isPathChar c && !(['/', ':', ';', '=', '@', '[', '\\', ']', '^', '|'].contains c)

/-- Whether a segment of a path stands for its directory. -/
def isHere (segment : String) : Bool := segment = "." || segment.toLower = "%2e"

/-- Whether a segment of a path stands for the directory above. -/
def isAbove (segment : String) : Bool :=
  ["..", ".%2e", "%2e.", "%2e%2e"].contains segment.toLower

/-- The segments of a path without its dot segments, after those `done`. -/
def resolve (done : List String) : List String → List String
  | [] => done
  | [segment] =>
    if isAbove segment then done.dropLast ++ [""]
    else if isHere segment then done ++ [""]
    else done ++ [segment]
  | segment :: rest =>
    if isAbove segment then resolve done.dropLast rest
    else if isHere segment then resolve done rest
    else resolve (done ++ [segment]) rest

/-- The pieces of a text between slashes of either kind. -/
def segments (cs : List Char) : List String :=
  (String.ofList (cs.map fun c => if c = '\\' then '/' else c)).splitOn "/"

/-- The path as it is sent. -/
def encodePath (cs : List Char) : String :=
  let all :=
    match segments cs with
    | "" :: rest => rest
    | all => all
  let encoded := all.map fun segment => Percent.encode isPathChar segment.toList
  "/" ++ String.intercalate "/" (resolve [] encoded)

/-- A part of a query with plus signs for blanks decoded. -/
def decodePart (part : String) : String :=
  Percent.decode (String.ofList (part.toList.map fun c => if c = '+' then ' ' else c))

/-- The pairs of a query. -/
def decodeQuery (query : String) : List (String × String) :=
  (query.splitOn "&").filterMap fun pair =>
    if pair = "" then none
    else
      match pair.splitOn "=" with
      | name :: rest => some (decodePart name, decodePart (String.intercalate "=" rest))
      | [] => none

/-- The scheme of a url and what follows its colon. -/
def scheme? (cs : List Char) : Option (String × List Char) :=
  match cs.span fun c => c.isAlphanum || c = '+' || c = '-' || c = '.' with
  | (c :: scheme, ':' :: rest) =>
    if c.isAlpha then some ((String.ofList (c :: scheme)).toLower, rest) else none
  | _ => none

/-- Whether a text is a port, or nothing, behind its colon. -/
def isPort : List Char → Bool
  | [] => true
  | c :: digits => c = ':' && digits.all Char.isDigit && decide (decimalValue digits < 65536)

/-- Splits an authority behind its last at sign; before it stands the user. -/
def splitUser (authority : List Char) : List Char × List Char :=
  let (place, before) := authority.reverse.span (· ≠ '@')
  ((before.drop 1).reverse, place.reverse)

/-- The user and the password before an at sign, which are empty where they are missing. -/
def credentials? (user : List Char) : Option (String × String) :=
  let (name, password) := user.span (· ≠ ':')
  let name := Percent.encode isUserChar name
  let password := Percent.encode isUserChar (password.drop 1)
  if name = "" ∧ password = "" then none else some (name, password)

/-- Splits the place behind a user before the colon of a port; colons in brackets begin no port. -/
def splitPort (bracketed : Bool) : List Char → List Char × List Char
  | [] => ([], [])
  | c :: rest =>
    if c = ':' ∧ !bracketed then ([], c :: rest)
    else
      let bracketed := if c = '[' then true else if c = ']' then false else bracketed
      let (host, port) := splitPort bracketed rest
      (c :: host, port)

/-- The host of an authority, behind a user and before a port. -/
def host? (place : List Char) : Option String := do
  let (host, port) := splitPort false place
  if !isPort port then none
  else if host.head? = some '[' then Host.ofBrackets? (String.ofList host)
  else Host.ofName? (← Percent.decode? (String.ofList host))

/-- The url that a text spells. -/
def ofText? (text : String) : Option Url := do
  let isControl (c : Char) : Bool := c ≤ ' '
  let cs := ((text.toList.dropWhile isControl).reverse.dropWhile isControl).reverse
  let cs := cs.filter fun c => c ≠ '\t' ∧ c ≠ '\n' ∧ c ≠ '\r'
  let (scheme, rest) ← scheme? cs
  let isSlash (c : Char) : Bool := c = '/' || c = '\\'
  let (authority, rest) :=
    (rest.dropWhile isSlash).span fun c => !isSlash c && c ≠ '?' && c ≠ '#'
  let (path, rest) := rest.span fun c => c ≠ '?' && c ≠ '#'
  let query := (rest.takeWhile (· ≠ '#')).drop 1
  if scheme ≠ "http" ∧ scheme ≠ "https" then none
  let (user, place) := splitUser authority
  return {
    secure := scheme = "https"
    user := credentials? user
    host := ← host? place
    path := encodePath path
    query := decodeQuery (String.ofList query) }

end Url

end RecordWatch
