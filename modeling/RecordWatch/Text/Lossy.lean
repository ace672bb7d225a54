/-! Reading bytes as UTF-8 text when they may not be: every longest run of bytes that begins a
character but does not finish it becomes one replacement character. -/

namespace RecordWatch

namespace Lossy

/-- A character begun: how many bytes are missing, the least and greatest next byte, and the value
so far. -/
structure Begun where
  missing : Nat
  low : Nat
  high : Nat
  value : Nat

/-- The character that a leading byte begins, if it begins one of several bytes. -/
def begin? (b : Nat) : Option Begun :=
  if 0xc2 ≤ b ∧ b ≤ 0xdf then some ⟨1, 0x80, 0xbf, b - 0xc0⟩
  else if b = 0xe0 then some ⟨2, 0xa0, 0xbf, 0⟩
  else if b = 0xed then some ⟨2, 0x80, 0x9f, 0xd⟩
  else if 0xe1 ≤ b ∧ b ≤ 0xef then some ⟨2, 0x80, 0xbf, b - 0xe0⟩
  else if b = 0xf0 then some ⟨3, 0x90, 0xbf, 0⟩
  else if 0xf1 ≤ b ∧ b ≤ 0xf3 then some ⟨3, 0x80, 0xbf, b - 0xf0⟩
  else if b = 0xf4 then some ⟨3, 0x80, 0x8f, 4⟩
  else none

/-- The replacement character. -/
def replacement : Char := '\ufffd'

/-- The characters that a byte yields where none is begun, and the one it begins. -/
def fresh (b : Nat) : List Char × Option Begun :=
  if b < 0x80 then ([Char.ofNat b], none)
  else
    match begin? b with
    | some begun => ([], some begun)
    | none => ([replacement], none)

/-- The characters of bytes, the first of which may go on with a character. -/
def chars : Option Begun → List UInt8 → List Char
  | none, [] => []
  | some _, [] => [replacement]
  | none, b :: rest =>
    let (done, begun) := fresh b.toNat
    done ++ chars begun rest
  | some begun, b :: rest =>
    if begun.low ≤ b.toNat ∧ b.toNat ≤ begun.high then
      let value := begun.value * 64 + b.toNat % 64
      if begun.missing ≤ 1 then Char.ofNat value :: chars none rest
      else chars (some ⟨begun.missing - 1, 0x80, 0xbf, value⟩) rest
    else
      let (done, next) := fresh b.toNat
      replacement :: done ++ chars next rest

/-- The text of bytes. -/
def decode (bytes : List UInt8) : String := String.ofList (chars none bytes)

end Lossy

end RecordWatch
