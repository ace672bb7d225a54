import RecordWatch.Shell.Expansion

/-! Leading streams elsewhere: to files, to other streams and to documents in the script. -/

namespace RecordWatch

namespace Shell

/-- A redirection whose words are expanded. -/
inductive Lead where
  | file (stream : Nat) (opening : Opening) (path : String)
  | duplicate (stream source : Nat)
  | close (stream : Nat)
  | document (stream : Nat) (text : String)

namespace Lead

open Process

/-- A redirection with its words expanded. -/
def ofRedirection (runner : Runner) : Redirection → Step Lead
  | .file stream opening path =>
    return .file stream opening (← Expansion.textOf runner path)
  | .duplicate stream source => do
    let text ← Expansion.textOf runner source
    match text.toList with
    | ['-'] => return .close stream
    | [c] => if c.isDigit then return .duplicate stream (c.toNat - 48) else refuse
    | _ => refuse
  | .document stream text =>
    return .document stream (Glyph.text (← runner.expand false text))
where
  /-- Refuses what names no stream. -/
  refuse : Step Lead := do
    modify fun p => { p with line := p.line + 1 }
    fail "Syntax error: Bad fd number"

/-- The stream of a path that names one. -/
def named? (path : String) : Option Nat :=
  match path with
  | "/dev/stdin" => some 0
  | "/dev/stdout" => some 1
  | "/dev/stderr" => some 2
  | path =>
    if path.startsWith "/dev/fd/" then decimal? (path.drop 8).toString else none

/-- Refuses a path. -/
def refusePath {α : Type} (verb path why : String) : Step α :=
  fail ("cannot " ++ verb ++ " " ++ path ++ ": " ++ why)

/-- A stream that leads to a path. -/
def openPath (opening : Opening) (path : String) : Step Nat := do
  let p ← get
  let full := p.resolve path
  if full = "/dev/null" || full = "/dev/zero" then addStream ⟨.nowhere, 0, false⟩
  else if full = "/dev/tty" then
    refusePath (if opening = .read then "open" else "create") path "No such device or address"
  else
    match named? full with
    | some number =>
      match p.stream? number with
      | some index => return index
      | none => refusePath "open" path "No such file"
    | none =>
      match opening, p.find path with
      | .read, _ =>
        match p.nodeAt path, p.find path with
        | .ok _, .ok (place, _, _) => addStream ⟨.file place, 0, false⟩
        | _, _ => refusePath "open" path "No such file"
      | _, .ok (_, _, some (.directory _)) =>
        refusePath (if opening = .write && p.isSet 'C' then "open" else "create") path
          "Is a directory"
      | opening, .ok (place, false, node?) =>
        if opening = .write && p.isSet 'C' && node?.isSome then
          refusePath "create" path "File exists"
        let kept := opening = .append || opening = .readWrite
        if !(kept && node?.isSome) then
          match ← writeFile path "" with
          | .ok () => pure ()
          | .error _ => refusePath "create" path "Directory nonexistent"
        addStream ⟨.file place, 0, opening = .append⟩
      | _, _ => refusePath "create" path "Directory nonexistent"

/-- Leads a stream elsewhere. -/
def perform (lead : Lead) : Step Unit := do
  let redirect (stream : Nat) (index : Option Nat) : Step Unit :=
    modify fun p => { p with descriptors := descriptorsWith p.descriptors stream index }
  match lead with
  | .file stream opening path => redirect stream (some (← openPath opening path))
  | .close stream => redirect stream none
  | .document stream text => redirect stream (some (← addMemory text))
  | .duplicate stream source =>
    match (← get).stream? source with
    | some index => redirect stream (some index)
    | none => fail (toString source ++ ": Bad file descriptor")

/-- Runs a step with streams led elsewhere; if that fails, another step. -/
def around (leads : List Lead) (failed step : Step Unit) : Step Unit := do
  let before := (← get).descriptors
  let restore (p : Process) : Process := { p with descriptors := before }
  match ← outcome (leads.forM perform) with
  | .ok () => Process.around id restore step
  | .error .failure =>
    modify restore
    failed
  | .error interrupt =>
    modify restore
    throw interrupt

end Lead

end Shell

end RecordWatch
