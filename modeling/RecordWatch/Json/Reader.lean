import RecordWatch.Json.Token

/-! Reading JSON text: one pass over the tokens builds the draft, with the open containers on a
stack. -/

namespace RecordWatch

/-- A container that is still open, its parts latest first. An object waits for the value of
`name`; a name without text leaves it unreadable. -/
inductive OpenContainer where
  | array (items : List Draft)
  | object (fields : List (String × Draft)) (readable : Bool) (name : String)

/-- What may come next. -/
inductive Awaiting where
  | value (stack : List OpenContainer)
  | firstItem (stack : List OpenContainer)
  | firstName (stack : List OpenContainer)
  | nextName (stack : List OpenContainer) (fields : List (String × Draft)) (readable : Bool)
  | colon (stack : List OpenContainer)
  | more (stack : List OpenContainer)
  | done (value : Draft)

namespace Awaiting

/-- The deepest nesting of containers that have a value. -/
def maxDepth : Nat := 127

/-- A value has been completed inside the open containers. -/
def complete (value : Draft) : List OpenContainer → Awaiting
  | [] => .done value
  | .array items :: stack => .more (.array (value :: items) :: stack)
  | .object fields readable name :: stack =>
    .more (.object ((name, value) :: fields) readable name :: stack)

/-- A container inside `stack` has been closed. -/
def close (value : Draft) (stack : List OpenContainer) : Awaiting :=
  complete (if stack.length < maxDepth then value else .unreadable) stack

/-- A token where a value may begin. -/
def begin? (stack : List OpenContainer) : Token → Option Awaiting
  | .openArray => some (.firstItem stack)
  | .openObject => some (.firstName stack)
  | .text (some s) => some (complete (.string s) stack)
  | .text none => some (complete .unreadable stack)
  | .word draft => some (complete draft stack)
  | _ => none

/-- The name of a field of an object. -/
def named (stack : List OpenContainer) (fields : List (String × Draft)) (readable : Bool) :
    Option String → Awaiting
  | some name => .colon (.object fields readable name :: stack)
  | none => .colon (.object fields false "" :: stack)

/-- One more token. -/
def step? : Awaiting → Token → Option Awaiting
  | .value stack, token => begin? stack token
  | .firstItem stack, .closeArray => some (close (.array []) stack)
  | .firstItem stack, token => begin? (.array [] :: stack) token
  | .firstName stack, .closeObject => some (close (.object []) stack)
  | .firstName stack, .text name => some (named stack [] true name)
  | .nextName stack fields readable, .text name => some (named stack fields readable name)
  | .colon stack, .colon => some (.value stack)
  | .more (.array items :: stack), .comma => some (.value (.array items :: stack))
  | .more (.array items :: stack), .closeArray => some (close (.array items.reverse) stack)
  | .more (.object fields readable _ :: stack), .comma => some (.nextName stack fields readable)
  | .more (.object fields readable _ :: stack), .closeObject =>
    some (close (if readable then .object fields.reverse else .unreadable) stack)
  | _, _ => none

end Awaiting

namespace Draft

/-- The draft that a text spells. -/
def ofText? (text : String) : Option Draft := do
  match ← (← Token.ofText? text).foldlM Awaiting.step? (.value []) with
  | .done draft => some draft
  | _ => none

end Draft

namespace Json

/-- The value that a text spells, if all of it has one. -/
def ofText? (text : String) : Option Json := do (← Draft.ofText? text).toJson?

end Json

end RecordWatch
