import RecordWatch.Shell.Regex
import RecordWatch.Shell.Tool

/-! The program that searches lines for patterns. -/

namespace RecordWatch

namespace Shell

namespace Tool

open Process

/-- What a search is asked for. -/
structure Search where
  regexes : List Regex
  fold : Bool
  inverted : Bool
  word : Bool
  line : Bool

namespace Search

/-- Whether a match may count: it may have to be a whole line or a whole word. -/
def counts (search : Search) (text : Array Char) (first last : Nat) : Bool :=
  if search.line then first = 0 && last = text.size
  else if search.word then
    !Regex.isWordBefore text first && !Regex.isWord text last
  else true

/-- The first match from a position on that counts. -/
def find? (search : Search) (text : Array Char) (start : Nat) : Option (Nat × Nat) :=
  (List.range (text.size + 1 - start)).findSome? fun offset =>
    let first := start + offset
    let ends := search.regexes.flatMap fun regex =>
      (Regex.reaches text search.fold regex ⟨first, []⟩).map Regex.Reached.position
    let ends := ends.filter fun last => search.counts text first last
    if ends.isEmpty then none else some (first, ends.foldl max 0)

/-- Whether a line is wanted. -/
def wants (search : Search) (line : String) : Bool :=
  (search.find? line.toList.toArray 0).isSome != search.inverted

/-- The matches of a line that are not empty, at most `limit` of them from a position on. -/
def matchesFrom (search : Search) (text : Array Char) : Nat → Nat → List String
  | 0, _ => []
  | limit + 1, start =>
    match search.find? text start with
    | none => []
    | some (first, last) =>
      if last ≤ first then search.matchesFrom text limit (first + 1)
      else
        String.ofList (text.extract first last).toList :: search.matchesFrom text limit last

/-- The search for the patterns of a text, one on each of its lines. -/
def ofPatterns? (fixed extended : Bool) (patterns : List String) : Option (List Regex) :=
  (patterns.flatMap fun pattern => pattern.splitOn "\n").mapM fun pattern =>
    if fixed then some (Regex.ofFixed pattern) else Regex.ofText? extended pattern

end Search

/-- Searches lines for patterns; its status is 0 if any line is wanted. -/
def grep (name : String) (fixed extended : Bool) : Tool :=
  withOptions name
    ⟨['E', 'F', 'G', 'i', 'y', 'v', 'c', 'n', 'q', 'l', 'L', 'o', 'x', 'w', 's', 'h', 'H', 'a',
        'b', 'z', 'r', 'R', 'P'], ['e', 'm', 'f', 'A', 'B', 'C'],
      [("extended-regexp", 'E'), ("fixed-strings", 'F'), ("ignore-case", 'i'),
        ("invert-match", 'v'), ("count", 'c'), ("line-number", 'n'), ("quiet", 'q'),
        ("silent", 'q'), ("files-with-matches", 'l'), ("only-matching", 'o'),
        ("line-regexp", 'x'), ("word-regexp", 'w'), ("no-messages", 's'), ("regexp", 'e'),
        ("max-count", 'm')]⟩ 2
    fun arguments => do
      let given := arguments.values 'e'
      let (patterns, paths) :=
        match given, arguments.operands with
        | [], pattern :: paths => ([pattern], paths)
        | given, paths => (given, paths)
      if patterns.isEmpty then
        complain ("Usage: " ++ name ++ " [OPTION]... PATTERNS [FILE]...\nTry '" ++ name ++
          " --help' for more information.\n")
        return 2
      match Search.ofPatterns? (fixed || arguments.isGiven 'F')
          (extended || arguments.isGiven 'E' || arguments.isGiven 'P') patterns with
      | none => do
        grumble name "Invalid regular expression"
        return 2
      | some regexes =>
        let search : Search :=
          ⟨regexes, arguments.isGiven 'i' || arguments.isGiven 'y', arguments.isGiven 'v',
            arguments.isGiven 'w', arguments.isGiven 'x'⟩
        let most := (arguments.value? 'm').bind decimal?
        let named := (paths.length > 1 || arguments.isGiven 'H') && !arguments.isGiven 'h'
        let (found, failed) ← (if paths.isEmpty then ["-"] else paths).foldlM
          (fun (found, failed) path => do
            match ← contentOf path with
            | .error reason =>
              if !arguments.isGiven 's' then grumble name (plainly path reason)
              return (found, true)
            | .ok text =>
              let lines := ((Octets.lines text).zipIdx 1).filter fun line => search.wants line.1
              let lines := most.elim lines lines.take
              report search arguments (if path = "-" then "(standard input)" else path) named lines
              return (found || !lines.isEmpty, failed)) (false, false)
        return if arguments.isGiven 'q' && found then 0
          else if failed then 2 else if found then 0 else 1
where
  /-- Writes what is asked for of the lines that were found in a file. -/
  report (search : Search) (arguments : Arguments) (path : String) (named : Bool)
      (lines : List (String × Nat)) : Step Unit := do
    let before := if named then path ++ ":" else ""
    if arguments.isGiven 'q' then pure ()
    else if arguments.isGiven 'l' then
      if !lines.isEmpty then say (path ++ "\n")
    else if arguments.isGiven 'L' then
      if lines.isEmpty then say (path ++ "\n")
    else if arguments.isGiven 'c' then say (before ++ toString lines.length ++ "\n")
    else
      lines.forM fun (line, n) => do
        let before := before ++ if arguments.isGiven 'n' then toString n ++ ":" else ""
        if arguments.isGiven 'o' then
          if !search.inverted then
            (search.matchesFrom line.toList.toArray (line.length + 1) 0).forM fun text =>
              say (before ++ text ++ "\n")
        else say (before ++ line ++ "\n")

end Tool

end Shell

end RecordWatch
