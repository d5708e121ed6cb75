import CrossSwap.Bytes
import CrossSwap.Rlp.Fault

/-!
# Headers of items

The first byte of an item tells data from lists and short lengths from long ones.  A byte below
`0x80` is an item of its own; a length above 55 is written in bytes of its own behind the first,
without leading zeros.
-/

namespace CrossSwap.Rlp

/-- The number of bytes in front of an item's payload and in the payload. -/
structure Header where
  headerLength : Nat
  payloadLength : Nat
  deriving DecidableEq, Repr

def Header.total (h : Header) : Nat :=
  h.headerLength + h.payloadLength

/-- Reads a length of `k` bytes from the bytes behind the first. -/
def Header.ofLengthBytes (k : Nat) (rest : Bytes) : Except Fault Header :=
  if rest.head? = some 0 then .error .lengthLeadingZero
  else if rest.length < k then .error .tooShort
  else if Bytes.toNatBE (rest.take k) ≤ 55 then .error .indirection
  else .ok ⟨1 + k, Bytes.toNatBE (rest.take k)⟩

/-- Reads the header that a byte string starts with. -/
def Header.read : Bytes → Except Fault Header
  | [] => .error .tooShort
  | first :: rest =>
    let b := first.toNat
    if b < 0x80 then .ok ⟨0, 1⟩
    else if b ≤ 0xB7 then .ok ⟨1, b - 0x80⟩
    else if b ≤ 0xBF then Header.ofLengthBytes (b - 0xB7) rest
    else if b ≤ 0xF7 then .ok ⟨1, b - 0xC0⟩
    else Header.ofLengthBytes (b - 0xF7) rest

/-- Whether a byte string starts with a list. -/
def isList : Bytes → Bool
  | [] => false
  | first :: _ => 0xC0 ≤ first.toNat

/-- The header of a payload of `n` bytes: `short` is the first byte of an empty payload, `long` is
one below the first byte of a length of one byte. -/
def Header.write (short long n : Nat) : Bytes :=
  if n ≤ 55 then [UInt8.ofNat (short + n)]
  else UInt8.ofNat (long + (Bytes.minimal n).length) :: Bytes.minimal n

def dataHeader (n : Nat) : Bytes :=
  Header.write 0x80 0xB7 n

def listHeader (n : Nat) : Bytes :=
  Header.write 0xC0 0xF7 n

end CrossSwap.Rlp
