/-! Shell scripts: words with quoting, parameters and substitutions, and commands with redirections,
pipelines, conditions, loops and functions. This is the language of a shell that the program is only
tried out on. -/

namespace RecordWatch

namespace Shell

/-- What is done with the value of a parameter: it is taken as it is or counted, the word stands in
for it, becomes its value, is demanded to be needless or takes its place, or a pattern is cut off
its start or its end. -/
inductive Operation where
  | value
  | length
  | fallback
  | assign
  | demand
  | alternative
  | trimStart (longest : Bool)
  | trimEnd (longest : Bool)
  | invalid
deriving DecidableEq

/-- How a file is opened: it is written anew, also against the option that protects files, added to,
read, or both read and written. -/
inductive Opening where
  | write
  | overwrite
  | append
  | read
  | readWrite
deriving DecidableEq

mutual

/-- A piece of a word. What a quoted piece yields is not split and holds no patterns. -/
inductive Piece where
  | text (text : String) (quoted : Bool)
  /-- With `nullCounts`, an empty parameter counts as unset. -/
  | parameter (name : String) (operation : Operation) (nullCounts : Bool) (word : List Piece)
      (quoted : Bool)
  | output (script : List Command) (quoted : Bool)
  | arithmetic (expression : List Piece) (quoted : Bool)

/-- Where a stream leads: to a file, to where another one leads, or to a document in the script. -/
inductive Redirection where
  | file (stream : Nat) (opening : Opening) (path : List Piece)
  | duplicate (stream : Nat) (source : List Piece)
  | document (stream : Nat) (text : List Piece)

/-- A command, with the line that it begins on where errors name it. -/
inductive Command where
  | simple (line : Nat) (assignments : List (String × List Piece)) (words : List (List Piece))
      (redirections : List Redirection)
  | negation (command : Command)
  | pipeline (commands : List Command)
  | both (first second : Command)
  | either (first second : Command)
  | sequence (commands : List Command)
  | background (command : Command)
  | subshell (line : Nat) (body : Command)
  | redirected (line : Nat) (body : Command) (redirections : List Redirection)
  | choice (condition body : Command) (otherwise : Option Command)
  /-- A loop that goes on as long as the condition succeeds, or fails with `untilSuccess`. -/
  | loop (untilSuccess : Bool) (condition body : Command)
  | each (line : Nat) (name : String) (words : List (List Piece)) (body : Command)
  | select (line : Nat) (word : List Piece) (cases : List (List (List Piece) × Command))
  | function (name : String) (body : Command)

end

/-- A word of a script. -/
abbrev Word := List Piece

/-- The words that have a meaning of their own where a command may begin. -/
def keywords : List String :=
  ["!", "case", "do", "done", "elif", "else", "esac", "fi", "for", "if", "in", "then", "until",
    "while", "\x7b", "\x7d"]

end Shell

end RecordWatch
