/-! Identifiers of records and collections. They may be written with dashes anywhere; without any
they are the keys of snapshots and the names of files. Ids of new rules are made at random. -/

namespace RecordWatch

/-- An identifier without its dashes. -/
def plainId (id : String) : String := String.ofList (id.toList.filter (· ≠ '-'))

/-- A byte as two hexadecimal digits. -/
def hexByte (b : UInt8) : String :=
  let digits := Nat.toDigits 16 b.toNat
  String.ofList (List.replicate (2 - digits.length) '0' ++ digits)

/-- The id of sixteen random bytes: hexadecimal digits in groups, in which the version (4) and the
variant are marked. -/
def randomId (bytes : List UInt8) : String :=
  let marked := (bytes.zipIdx).map fun (b, i) =>
    if i = 6 then b &&& 0x0f ||| 0x40 else if i = 8 then b &&& 0x3f ||| 0x80 else b
  let part (start count : Nat) := String.join (((marked.drop start).take count).map hexByte)
  String.intercalate "-" [part 0 4, part 4 2, part 6 2, part 8 2, part 10 6]

end RecordWatch
