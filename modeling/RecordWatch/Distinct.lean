/-! Lists of names in which each occurs once, in the order of first occurrence. -/

namespace RecordWatch

/-- A list of names followed by those of another that are not in it yet. -/
def appendNew (names more : List String) : List String :=
  more.foldl (fun all name => if all.contains name then all else all ++ [name]) names

/-- The names of a list, each once. -/
def distinct (names : List String) : List String := appendNew [] names

end RecordWatch
