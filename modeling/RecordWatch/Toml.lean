/-! TOML documents. A document is put together from its lines: a line binds a key in the table of
the last header, and dotted keys reach into tables of their own. No key is bound twice, and a table
is opened only once: by its header, by dotted keys or inline. -/

namespace RecordWatch

/-- How a table came about: by its own header, by the header of a table inside it, by a dotted key,
or inline. -/
inductive TableOrigin where
  | header
  | implied
  | dotted
  | inlined
deriving DecidableEq

/-- A TOML value. Floats, dates and times are all `other`; they are checked, but not kept. -/
inductive Toml where
  | string (value : String)
  | integer (value : Int)
  | bool (value : Bool)
  | other
  | array (items : List Toml)
  | table (origin : TableOrigin) (fields : List (String × Toml))
  | tables (latest : List (String × Toml)) (earlier : List (List (String × Toml)))
deriving Inhabited

/-- A line of a document: a key with its value, or the header of a table or of one more table of a
list. Keys are given with the path that leads to them. -/
inductive TomlLine where
  | pair (path : List String) (key : String) (value : Toml)
  | header (path : List String) (key : String)
  | item (path : List String) (key : String)

/-- A table that is being put together. -/
structure TomlTable where
  origin : TableOrigin
  fields : List (String × Toml)

namespace TomlTable

/-- The fields with the value of a name changed. -/
def alterIn (step : Option Toml → Option Toml) (name : String) :
    List (String × Toml) → Option (List (String × Toml))
  | [] => do return [(name, ← step none)]
  | (other, value) :: rest => do
    if other = name then return (other, ← step (some value)) :: rest
    else return (other, value) :: (← alterIn step name rest)

/-- The table with the value of a name changed. -/
def alter (table : TomlTable) (name : String) (step : Option Toml → Option Toml) :
    Option TomlTable := do
  return { table with fields := ← alterIn step name table.fields }

/-- The table as a value. -/
def toToml (table : TomlTable) : Toml := .table table.origin table.fields

/-- Whether a path may lead on into a table; a dotted one only into tables that have no header. -/
def isOpen (dotted : Bool) : TableOrigin → Bool
  | .implied | .dotted => true
  | .header => !dotted
  | .inlined => false

/-- The table with what a path leads to changed; missing tables on the way are made. In a list of
tables the path leads into the latest. -/
def change (dotted : Bool) (step : TomlTable → Option TomlTable) :
    List String → TomlTable → Option TomlTable
  | [], table => step table
  | key :: path, table =>
    table.alter key fun
      | none => do
        let origin := if dotted then TableOrigin.dotted else .implied
        return (← change dotted step path ⟨origin, []⟩).toToml
      | some (.table origin fields) => do
        if isOpen dotted origin then
          return (← change dotted step path ⟨origin, fields⟩).toToml
        else none
      | some (.tables latest earlier) => do
        return .tables (← change dotted step path ⟨.header, latest⟩).fields earlier
      | some _ => none

/-- The table with a key bound to a value. Dotted keys only add to the tables of dotted keys. -/
def bind (path : List String) (key : String) (value : Toml) : TomlTable → Option TomlTable :=
  change true (fun table =>
    if (table.origin == .dotted) == path.isEmpty then none
    else table.alter key fun old => if old.isSome then none else some value) path

/-- The table with the table of a header opened. -/
def openHeader (path : List String) (key : String) : TomlTable → Option TomlTable :=
  change false (fun table => table.alter key fun
    | none => some (.table .header [])
    | some (.table .implied fields) => some (.table .header fields)
    | some _ => none) path

/-- The table with one more table in a list of tables. -/
def openItem (path : List String) (key : String) : TomlTable → Option TomlTable :=
  change false (fun table => table.alter key fun
    | none => some (.tables [] [])
    | some (.tables latest earlier) => some (.tables [] (latest :: earlier))
    | some _ => none) path

/-- A table written inline, from its pairs. -/
def ofPairs? (pairs : List (List String × String × Toml)) : Option Toml := do
  let table ← pairs.foldlM (fun (table : TomlTable) (path, key, value) =>
    TomlTable.bind path key value table) ⟨.inlined, []⟩
  return table.toToml

end TomlTable

/-- A document up to some line, and the path of the last header. -/
structure TomlDocument where
  root : TomlTable
  here : List String

namespace TomlDocument

/-- The document after one more line. -/
def add (document : TomlDocument) : TomlLine → Option TomlDocument
  | .pair path key value => do
    let root ← document.root.change false (TomlTable.bind path key value) document.here
    return { document with root }
  | .header path key => do return ⟨← document.root.openHeader path key, path ++ [key]⟩
  | .item path key => do return ⟨← document.root.openItem path key, path ++ [key]⟩

/-- The fields of the document that consists of lines. -/
def fields? (lines : List TomlLine) : Option (List (String × Toml)) := do
  return (← lines.foldlM add ⟨⟨.header, []⟩, []⟩).root.fields

end TomlDocument

end RecordWatch
