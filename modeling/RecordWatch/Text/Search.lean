/-! Looking for one text inside another. -/

namespace RecordWatch

/-- Whether `part` occurs in `whole`. -/
def occursIn (part : List Char) : List Char → Bool
  | [] => part.isEmpty
  | c :: rest => part.isPrefixOf (c :: rest) || occursIn part rest

namespace Text

/-- Whether a text contains another. -/
def contains (whole part : String) : Bool := occursIn part.toList whole.toList

/-- Whether a text starts with another. -/
def startsWith (whole part : String) : Bool := part.toList.isPrefixOf whole.toList

/-- Whether a text ends with another. -/
def endsWith (whole part : String) : Bool := part.toList.isSuffixOf whole.toList

end Text

end RecordWatch
