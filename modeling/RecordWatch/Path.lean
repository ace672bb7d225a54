/-! File paths as text, with their parts between slashes. -/

namespace RecordWatch

namespace Path

/-- The parts of a text between separators. -/
def parts (separator : Char) (text : String) : List String :=
  (text.toList.splitOn separator).map String.ofList

/-- The pieces of a text between slashes. -/
def pieces (path : String) : List String := parts '/' path

/-- Whether a path starts at the root. -/
def isAbsolute (path : String) : Bool := path.toList.head? == some '/'

/-- A path inside another; an absolute one replaces it. -/
def join (base path : String) : String :=
  if isAbsolute path then path
  else if base.isEmpty || base.toList.getLast? == some '/' then base ++ path
  else base ++ "/" ++ path

/-- The pieces without a trailing slash or a trailing dot. -/
def trimmed (pieces : List String) : List String :=
  (pieces.reverse.dropWhile fun piece => piece = "" || piece = ".").reverse

/-- The path that the last part of a path lies in; the root and the empty path have none. -/
def parent? (path : String) : Option String :=
  match (trimmed (pieces path)).reverse with
  | [] => none
  | _ :: before =>
    match trimmed before.reverse with
    | [] => some (if isAbsolute path then "/" else "")
    | kept => some (String.intercalate "/" kept)

/-- A name without its last extension; a leading dot begins no extension. -/
def stem (name : String) : String :=
  match (parts '.' name).reverse with
  | [] | [_] => name
  | _ :: before =>
    let stem := String.intercalate "." before.reverse
    if stem = "" ∨ name = ".." then name else stem

/-- A path with another extension in the place of that of its last part. Where a single dot stands
before the old extension, the two dots that are left name the directory above, which takes none. -/
def withExtension (path extension : String) : String :=
  match (pieces path).reverse with
  | [] => path
  | name :: before =>
    let changed := if stem name = "." then ".." else stem name ++ "." ++ extension
    String.intercalate "/" (before.reverse ++ [changed])

end Path

end RecordWatch
