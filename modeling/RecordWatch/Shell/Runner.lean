import RecordWatch.Shell.Process

/-! What the parts of a shell ask of each other. Commands hold words, words hold commands, and both
run programs that are shells again; every such step goes through a `Runner` of the next level. -/

namespace RecordWatch

namespace Shell

/-- Why a program does not start: it is not there, may not be run, or is of no known format. -/
inductive StartError where
  | missing
  | denied
  | unknownFormat
deriving DecidableEq

/-- An octet of an expansion before it is split into fields, a quoted piece that may be empty, or
the gap between two fields. -/
inductive Glyph where
  | octet (c : Char) (quoted splits : Bool)
  | quote
  | gap

/-- The steps of a level: running a command, whose failure may be tested, or the commands of a text;
expanding pieces, which are split later if `full`; and starting the program at a path. -/
structure Runner where
  command : Bool → Command → Step Unit
  text : Bool → String → Step Unit
  expand : Bool → List Piece → Step (List Glyph)
  program : String → List String → Step (Except StartError ExitStatus)

end Shell

end RecordWatch
