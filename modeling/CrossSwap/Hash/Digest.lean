import CrossSwap.Bytes

/-!
# Digests

Both hash functions of the library give thirty-two bytes, a fact that the type carries: a digest is
always short enough to be the seed of an address.
-/

namespace CrossSwap

/-- Thirty-two bytes. -/
structure Digest where
  toBytes : Bytes
  length_toBytes : toBytes.length = 32
  deriving DecidableEq, Repr

@[ext] theorem Digest.ext {a b : Digest} (h : a.toBytes = b.toBytes) : a = b := by
  cases a; cases b; cases h; rfl

end CrossSwap
