import RecordWatch.Disk

/-! A file tree in memory. Files and directories are kept by their full paths from the root; a path
is walked part by part, and every part but the last has to be a directory. Each change takes a new
time, so two versions of a file never share one unless it is set. -/

namespace RecordWatch

/-- A file or a directory, with the time of its last change. -/
inductive Node where
  | file (bytes : ByteArray) (executable : Bool) (modified : Int)
  | directory (modified : Int)

namespace Node

/-- The time of the last change. -/
def modified : Node → Int
  | .file _ _ time => time
  | .directory time => time

/-- The node with another time. -/
def stamped (time : Int) : Node → Node
  | .file bytes executable _ => .file bytes executable time
  | .directory _ => .directory time

/-- Whether the node is a directory. -/
def isDirectory : Node → Bool
  | .file _ _ _ => false
  | .directory _ => true

end Node

/-- A file tree: what is at each path below the root, and the time of the next change. -/
structure FileTree where
  nodes : List (List String × Node)
  time : Int

namespace FileTree

/-- A tree with nothing in it, whose changes are numbered from `time` on. -/
def empty (time : Int) : FileTree := ⟨[], time⟩

/-- What is at a path. -/
def node? (tree : FileTree) (path : List String) : Option Node :=
  if path = [] then some (.directory 0) else tree.nodes.lookup path

/-- The tree without a path and all below it. -/
def remove (tree : FileTree) (path : List String) : FileTree :=
  { tree with nodes := tree.nodes.filter fun entry => !path.isPrefixOf entry.1 }

/-- The tree with another node at a path; what is below it stays. -/
def put (tree : FileTree) (path : List String) (node : Node) : FileTree :=
  { tree with nodes := (path, node) :: tree.nodes.filter fun entry => entry.1 ≠ path }

/-- The tree with the time of a path set. -/
def stamp (tree : FileTree) (path : List String) (time : Int) : FileTree :=
  { tree with
    nodes := tree.nodes.map fun (other, node) =>
      (other, if other = path then node.stamped time else node) }

/-- The tree once the entries of a directory have changed. -/
def touch (tree : FileTree) (directory : List String) : FileTree :=
  { tree.stamp directory tree.time with time := tree.time + 1 }

/-- Whether a directory has no entries. -/
def isBare (tree : FileTree) (path : List String) : Bool :=
  !tree.nodes.any fun entry => path.isPrefixOf entry.1 && entry.1 ≠ path

/-- The longest name of an entry, in bytes. -/
def maxName : Nat := 255

/-- The longest path, in bytes. -/
def maxPath : Nat := 4095

/-- Whether a part of a path can name an entry. -/
def isName (part : String) : Bool := part.utf8ByteSize ≤ maxName

/-- Whether a text can be a path. -/
def isPath (text : String) : Bool := text.utf8ByteSize ≤ maxPath && !text.contains '\x00'

/-- The place of a path, walked from a directory: its full path, and whether it can only be a
directory. -/
def walk (tree : FileTree) (here : List String) :
    List String → Except FileError (List String × Bool)
  | [] => .ok (here, true)
  | part :: rest =>
    if part = "" ∨ part = "." then tree.walk here rest
    else if part = ".." then tree.walk here.dropLast rest
    else if !isName part then .error .failed
    else if rest = [] then .ok (here ++ [part], false)
    else
      match tree.node? (here ++ [part]) with
      | none => .error .notFound
      | some (.file _ _ _) => .error .failed
      | some (.directory _) => tree.walk (here ++ [part]) rest

/-- The place of a path. -/
def locate (tree : FileTree) (path : String) : Except FileError (List String × Bool) :=
  if path = "" then .error .notFound
  else if !isPath path then .error .failed
  else tree.walk [] (Path.pieces path)

/-- The node at a path. -/
def nodeAt (tree : FileTree) (path : String) : Except FileError Node := do
  let (place, directory) ← tree.locate path
  match tree.node? place with
  | none => throw .notFound
  | some node => if directory && !node.isDirectory then throw .failed else return node

/-- Whether there is a file at a path. -/
def isFile (tree : FileTree) (path : String) : Bool :=
  match tree.nodeAt path with
  | .ok (.file _ _ _) => true
  | _ => false

/-- The content of a file. -/
def read (tree : FileTree) (path : String) : Except FileError ByteArray := do
  match ← tree.nodeAt path with
  | .file bytes _ _ => return bytes
  | .directory _ => throw .failed

/-- The tree with a file written; a file that exists stays executable if it was. -/
def write (tree : FileTree) (path : String) (bytes : ByteArray) : Except FileError FileTree := do
  let (place, directory) ← tree.locate path
  match tree.node? place with
  | some (.directory _) => throw .failed
  | some (.file _ executable _) =>
    let tree := tree.put place (.file bytes executable tree.time)
    return { tree with time := tree.time + 1 }
  | none =>
    if directory then throw .failed
    else return (tree.put place (.file bytes false tree.time)).touch place.dropLast

/-- The tree with a file marked executable or not. -/
def setExecutable (tree : FileTree) (path : String) (executable : Bool) : FileTree :=
  match tree.locate path with
  | .ok (place, _) =>
    match tree.node? place with
    | some (.file bytes _ time) => tree.put place (.file bytes executable time)
    | _ => tree
  | .error _ => tree

/-- The names of the entries of a directory. -/
def entries (tree : FileTree) (directory : List String) : List String :=
  tree.nodes.filterMap fun (path, _) =>
    if path.dropLast = directory then path.getLast? else none

/-- The path of an entry once a directory or file has moved. -/
def moved (source target : List String) (path : List String) : List String :=
  if source.isPrefixOf path then target ++ path.drop source.length else path

/-- The tree with what is at one path moved to another. A file replaces a file, a directory replaces
a bare directory, and nothing moves into itself. -/
def rename (tree : FileTree) (source target : String) : Except FileError FileTree := do
  let (sourcePlace, sourceDirectory) ← tree.locate source
  let node ←
    match tree.node? sourcePlace with
    | some node => pure node
    | none => throw .notFound
  let (targetPlace, targetDirectory) ← tree.locate target
  if (sourceDirectory || targetDirectory) && !node.isDirectory then throw .failed
  if sourcePlace = targetPlace then return tree
  if node.isDirectory && sourcePlace.isPrefixOf targetPlace then throw .failed
  match tree.node? targetPlace with
  | some other =>
    if node.isDirectory != other.isDirectory then throw .failed
    if other.isDirectory && !tree.isBare targetPlace then throw .failed
  | none => pure ()
  let cleared := tree.remove targetPlace
  let nodes := cleared.nodes.map fun (path, node) => (moved sourcePlace targetPlace path, node)
  return ({ cleared with nodes }.touch sourcePlace.dropLast).touch targetPlace.dropLast

/-- The tree with a directory and those it lies in, made from a directory on. -/
def makeBelow (tree : FileTree) (here : List String) : List String → Except FileError FileTree
  | [] => .ok tree
  | part :: rest =>
    if part = "" ∨ part = "." then tree.makeBelow here rest
    else if part = ".." then tree.makeBelow here.dropLast rest
    else if !isName part then .error .failed
    else
      match tree.node? (here ++ [part]) with
      | some (.file _ _ _) => .error .failed
      | some (.directory _) => tree.makeBelow (here ++ [part]) rest
      | none =>
        ((tree.put (here ++ [part]) (.directory tree.time)).touch here).makeBelow
          (here ++ [part]) rest

/-- The tree with a directory and those it lies in. -/
def makeDirectories (tree : FileTree) (path : String) : Except FileError FileTree :=
  if isPath path then tree.makeBelow [] (Path.pieces path) else .error .failed

/-- The tree after a change, or as it was if the change fails. -/
def attempt (tree : FileTree) (change : FileTree → Except FileError FileTree) : FileTree :=
  (change tree).toOption.getD tree

/-- The tree with a file and the directories it lies in. -/
def install (tree : FileTree) (path : String) (bytes : ByteArray) : FileTree :=
  (tree.attempt fun tree => tree.makeDirectories ((Path.parent? path).getD "")).attempt
    fun tree => tree.write path bytes

/-- The tree without what is at a path. -/
def erase (tree : FileTree) (path : String) : FileTree :=
  tree.attempt fun tree => do return tree.remove (← tree.locate path).1

/-- The time of the last change of what is at a path. -/
def modified (tree : FileTree) (path : String) : Except FileError Int :=
  (tree.nodeAt path).map Node.modified

/-- The files below a directory by their paths in it, with the bare directories, whose paths end in
a slash and which have no content. -/
def listing (tree : FileTree) (directory : List String) : List (String × Option ByteArray) :=
  tree.nodes.filterMap fun (path, node) =>
    if directory.isPrefixOf path && path ≠ directory then
      let name := String.intercalate "/" (path.drop directory.length)
      match node with
      | .file bytes _ _ => some (name, some bytes)
      | .directory _ => if tree.isBare path then some (name ++ "/", none) else none
    else none

/-- The file operations on a tree that is part of a state. -/
def disk {σ : Type} (get : σ → FileTree) (set : FileTree → σ → σ) : Disk (StateM σ) where
  isFile path := return (get (← getThe σ)).isFile path
  read path := return (get (← getThe σ)).read path
  write path bytes := change fun tree => tree.write path bytes
  rename source target := change fun tree => tree.rename source target
  makeDirectories path := change fun tree => tree.makeDirectories path
  modified path := return (get (← getThe σ)).modified path
where
  /-- A change of the tree, which stays as it was if the change fails. -/
  change (step : FileTree → Except FileError FileTree) : StateM σ (Except FileError Unit) := do
    let state ← getThe σ
    match step (get state) with
    | .ok tree =>
      modifyThe σ (set tree)
      return .ok ()
    | .error error => return .error error

end FileTree

end RecordWatch
