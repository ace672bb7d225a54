/-! Numbers that fit in machine words. -/

namespace RecordWatch

/-- Whether an integer fits in a signed word of 64 bits. -/
def fitsSigned64 (i : Int) : Bool := -9223372036854775808 ≤ i && i ≤ 9223372036854775807

/-- Whether a number fits in an unsigned word of 64 bits. -/
def fitsUnsigned64 (n : Nat) : Bool := n < 18446744073709551616

/-- Whether a number fits in an unsigned word of 32 bits. -/
def fitsUnsigned32 (n : Nat) : Bool := n < 4294967296

end RecordWatch
