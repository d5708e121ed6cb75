import CrossSwap.Text.Utf8

/-!
# Faults of the binary layouts
-/

namespace CrossSwap.Borsh

inductive Fault where
  /-- The bytes end before the value does. -/
  | unexpectedEnd
  /-- Bytes follow the value. -/
  | leftover
  /-- A byte that is neither zero nor one stands for a truth value. -/
  | boolean (byte : UInt8)
  | text (fault : Utf8Fault)
  /-- A byte string is too long for its length to be written. -/
  | tooLong
  deriving DecidableEq, Repr

def Fault.message : Fault → String
  | .unexpectedEnd => "Unexpected length of input"
  | .leftover => "Not all bytes read"
  | .boolean byte => s!"Invalid bool representation: {byte.toNat}"
  | .text fault => fault.message
  | .tooLong => "invalid input parameter"

end CrossSwap.Borsh
