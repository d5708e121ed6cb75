import CrossSwap.Bytes

/-!
# Base 58

The alphabet leaves out `0`, `O`, `I` and `l`.  A byte string is read as one number, whose digits
are written; as many leading `1` stand for the zero bytes that the number does not show.
-/

namespace CrossSwap.Base58

def alphabet : List Char :=
  "123456789ABCDEFGHJKLMNPQRSTUVWXYZabcdefghijkmnopqrstuvwxyz".toList

def symbol (digit : Nat) : Char :=
  alphabet.getD digit '1'

def digit? (c : Char) : Option Nat :=
  alphabet.findIdx? (· == c)

/-- The number of zeros that a list starts with. -/
def leadingZeros {α : Type} [BEq α] [OfNat α 0] (xs : List α) : Nat :=
  (xs.takeWhile (· == 0)).length

def encode (bs : Bytes) : List Char :=
  List.replicate (leadingZeros bs) '1' ++ (Numeral.digits 58 bs.toNatBE).map symbol

def decode? (cs : List Char) : Option Bytes := do
  let ds ← cs.mapM digit?
  return List.replicate (leadingZeros ds) 0 ++ Bytes.minimal (Numeral.value 58 ds)

end CrossSwap.Base58
