import RecordWatch.Double
import RecordWatch.Fields

/-! JSON values. A number keeps whether it was written as an integer; the two kinds are never equal
to each other, and doubles are compared by value. The fields of an object stand in the order in
which they are written; a value that was read has them sorted by name, each name once. -/

namespace RecordWatch

/-- A JSON number: an integer of at most 64 bits, or a double. -/
inductive Number where
  | integer (value : Int)
  | double (value : Double)
deriving DecidableEq, Inhabited

namespace Number

/-- Equality within one kind of number. -/
def same : Number → Number → Bool
  | .integer i, .integer j => i == j
  | .double x, .double y => x.same y
  | _, _ => false

/-- The nearest double. -/
def toDouble : Number → Double
  | .integer i => .ofInt i
  | .double x => x

end Number

/-- A JSON value. -/
inductive Json where
  | null
  | bool (value : Bool)
  | number (value : Number)
  | string (value : String)
  | array (items : List Json)
  | object (fields : List (String × Json))
deriving Inhabited

namespace Json

mutual

/-- Structural equality: the same shape, names and order, and equal numbers. -/
def same : Json → Json → Bool
  | .null, .null => true
  | .bool a, .bool b => a == b
  | .number a, .number b => a.same b
  | .string a, .string b => a == b
  | .array a, .array b => sameItems a b
  | .object a, .object b => sameFields a b
  | _, _ => false

/-- Structural equality of the items of two arrays. -/
def sameItems : List Json → List Json → Bool
  | [], [] => true
  | a :: as, b :: bs => same a b && sameItems as bs
  | _, _ => false

/-- Structural equality of the fields of two objects. -/
def sameFields : List (String × Json) → List (String × Json) → Bool
  | [], [] => true
  | (k, a) :: as, (l, b) :: bs => k == l && same a b && sameFields as bs
  | _, _ => false

end

/-- The value of a field, if the value is an object that has it. -/
def field? (name : String) : Json → Option Json
  | .object fields => Fields.get? fields name
  | _ => none

/-- The truth value, if the value is one. -/
def bool? : Json → Option Bool
  | .bool b => some b
  | _ => none

/-- The text, if the value is a string. -/
def string? : Json → Option String
  | .string s => some s
  | _ => none

/-- The double nearest to the number, if the value is one. -/
def double? : Json → Option Double
  | .number n => some n.toDouble
  | _ => none

/-- The items, if the value is an array. -/
def items? : Json → Option (List Json)
  | .array items => some items
  | _ => none

/-- The fields, if the value is an object. -/
def fields? : Json → Option (Fields Json)
  | .object fields => some fields
  | _ => none

/-- The texts of a list of strings. -/
def texts? (items : List Json) : Option (List String) := items.mapM string?

/-- An array of strings. -/
def strings (texts : List String) : Json := .array (texts.map .string)

/-- The integer as a JSON number. -/
def integer (i : Int) : Json := .number (.integer i)

/-- The field of an optional value, left out when there is none. -/
def optionalField (name : String) : Option Json → List (String × Json)
  | some value => [(name, value)]
  | none => []

end Json

/-- A member of a record-like value, and whether it may be missing at the end of an array. -/
structure Member where
  name : String
  trailing : Bool

namespace Member

/-- The items of an array in the places of the members; only trailing members may be missing. -/
def positional? {α : Type} : List Member → List α → Option (List (Option α))
  | [], [] => some []
  | [], _ :: _ => none
  | member :: members, [] =>
    if member.trailing then (positional? members []).map (none :: ·) else none
  | _ :: members, item :: rest => (positional? members rest).map (some item :: ·)

end Member

namespace Json

/-- The members of a record-like value, each where the list of members has it: an object gives
them by name, an array by position. -/
def members? (members : List Member) : Json → Option (List (Option Json))
  | .object fields => some (members.map fun member => Fields.get? fields member.name)
  | .array items => Member.positional? members items
  | _ => none

end Json

end RecordWatch
