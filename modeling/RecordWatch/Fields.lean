/-! Lists of named values. `put` keeps a list that is sorted by name sorted, and keeps at most one
value of a name, so a sorted list built by `put` is a finite map; `get?` reads it as one. Names are
ordered by code point. -/

namespace RecordWatch

/-- A list of named values. -/
abbrev Fields (α : Type) := List (String × α)

namespace Fields

variable {α β : Type}

/-- The first value of a name. -/
def get? (fields : Fields α) (name : String) : Option α := fields.lookup name

/-- The fields with `name` bound to `value`, in the place of the old value or in sorted order. -/
def put (name : String) (value : α) : Fields α → Fields α
  | [] => [(name, value)]
  | (other, old) :: rest =>
    if name < other then (name, value) :: (other, old) :: rest
    else if name = other then (name, value) :: rest
    else (other, old) :: put name value rest

/-- The sorted fields of a list of bindings; a later binding of a name replaces an earlier one. -/
def ofList (bindings : List (String × α)) : Fields α :=
  bindings.foldl (fun fields (name, value) => fields.put name value) []

/-- The names, in order. -/
def names (fields : Fields α) : List String := fields.map Prod.fst

/-- The fields with every value changed by `f`. -/
def mapValues (f : α → β) (fields : Fields α) : Fields β :=
  fields.map fun (name, value) => (name, f value)

end Fields

end RecordWatch
