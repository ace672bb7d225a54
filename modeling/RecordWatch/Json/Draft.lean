import RecordWatch.Json

/-! JSON text that has been taken apart but not yet judged. A number past the range of doubles, a
string with half a surrogate pair and a container nested too deeply have no value; they spoil a
document only where it is used, so they are kept as `unreadable`. Repeated names are kept too,
because a record may not repeat a field while a map takes the last value. -/

namespace RecordWatch

/-- A JSON document in which some parts may have no value. -/
inductive Draft where
  | null
  | bool (value : Bool)
  | number (value : Number)
  | string (value : String)
  | array (items : List Draft)
  | object (fields : List (String × Draft))
  | unreadable
deriving Inhabited

namespace Draft

mutual

/-- The value of a draft, if every part of it has one; the last of repeated names counts. -/
def toJson? : Draft → Option Json
  | .null => some .null
  | .bool b => some (.bool b)
  | .number n => some (.number n)
  | .string s => some (.string s)
  | .array items => (toItems? items).map .array
  | .object fields => (toFields? fields).map fun fields => .object (Fields.ofList fields)
  | .unreadable => none

/-- The values of the items of an array. -/
def toItems? : List Draft → Option (List Json)
  | [] => some []
  | item :: rest => do return (← toJson? item) :: (← toItems? rest)

/-- The values of the fields of an object. -/
def toFields? : List (String × Draft) → Option (List (String × Json))
  | [] => some []
  | (name, item) :: rest => do return (name, ← toJson? item) :: (← toFields? rest)

end

mutual

/-- The draft of a value. -/
def ofJson : Json → Draft
  | .null => .null
  | .bool b => .bool b
  | .number n => .number n
  | .string s => .string s
  | .array items => .array (ofItems items)
  | .object fields => .object (ofFields fields)

/-- The drafts of the items of an array. -/
def ofItems : List Json → List Draft
  | [] => []
  | item :: rest => ofJson item :: ofItems rest

/-- The drafts of the fields of an object. -/
def ofFields : List (String × Json) → List (String × Draft)
  | [] => []
  | (name, item) :: rest => (name, ofJson item) :: ofFields rest

end

/-- The text, if the draft is a string. -/
def string? : Draft → Option String
  | .string s => some s
  | _ => none

/-- The items, if the draft is an array. -/
def items? : Draft → Option (List Draft)
  | .array items => some items
  | _ => none

/-- The truth value, if the draft is one. -/
def bool? : Draft → Option Bool
  | .bool b => some b
  | _ => none

/-- The list whose items `read` accepts. -/
def list? {α : Type} (read : Draft → Option α) (draft : Draft) : Option (List α) := do
  (← draft.items?).mapM read

/-- The map whose values `read` accepts, repeated ones included. -/
def map? {α : Type} (read : Draft → Option α) : Draft → Option (Fields α)
  | .object fields => do
    let values ← fields.mapM fun (name, draft) => do return (name, ← read draft)
    return Fields.ofList values
  | _ => none

/-- An optional member: absent and null mean none. -/
def optional? {α : Type} (read : Draft → Option α) : Option Draft → Option (Option α)
  | none => some none
  | some .null => some none
  | some draft => (read draft).map some

/-- A member with a default, which only absence selects. -/
def orElse? {α : Type} (fallback : α) (read : Draft → Option α) : Option Draft → Option α
  | none => some fallback
  | some draft => read draft

/-- The values of a name among fields, at most one of which may have it. -/
def unique? (fields : List (String × Draft)) (name : String) : Option (Option Draft) :=
  match fields.filter fun field => field.1 == name with
  | [] => some none
  | [(_, draft)] => some (some draft)
  | _ => none

/-- The members of a record-like value, each where the list of members has it: an object gives
them by name, an array by position. -/
def members? (members : List Member) : Draft → Option (List (Option Draft))
  | .object fields => members.mapM fun member => unique? fields member.name
  | .array items => Member.positional? members items
  | _ => none

end Draft

end RecordWatch
