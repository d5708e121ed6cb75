import CrossSwap.Range

/-!
# Protocol fee

The fee is the part of an amount that a rate in basis points takes, rounded down, and the payout is
the rest.  The amount is split into whole multiples of the denominator and a remainder first, so
that no product leaves the words that it is computed in.
-/

namespace CrossSwap

inductive FeeError where
  /-- The rate takes more than the whole amount. -/
  | invalidProtocolFee (rate : Word64)
  deriving DecidableEq, Repr

/-- The number of basis points in the whole. -/
def feeDenominator : Nat := 10000

def FeeError.message : FeeError → String
  | .invalidProtocolFee rate => s!"Protocol fee {decimal rate} bps exceeds 10000 bps"

/-- Checks that a rate is at most the whole. -/
def checkRate (rate : Word64) : Except FeeError Unit :=
  if feeDenominator < rate.toNat then .error (.invalidProtocolFee rate) else .ok ()

@[simp] theorem checkRate_eq_ok_iff {rate : Word64} {u : Unit} :
    checkRate rate = .ok u ↔ rate.toNat ≤ feeDenominator := by
  by_cases h : feeDenominator < rate.toNat
  · simp [checkRate, h, Nat.not_le.mpr h]
  · simp [checkRate, h, Nat.not_lt.mp h]

/-- The two parts of a settled amount. -/
structure FeeSplit where
  fee : Word128
  payout : Word128
  deriving DecidableEq, Repr

section Steps

variable {m : Type → Type} [Monad m] (check : RangeCheck m)

/-- How the fee at an accepted rate is computed. -/
def feeSteps (amount : Word128) (rate : Word64) : m Word128 := do
  let whole := BitVec.ofNat 128 feeDenominator
  let bps := rate.setWidth 128
  let multiples ← check.mul (amount / whole) bps
  let rest ← check.mul (amount % whole) bps
  check.add multiples (rest / whole)

/-- How the payout at an accepted rate is computed. -/
def payoutSteps (amount : Word128) (rate : Word64) : m Word128 := do
  let taken ← feeSteps check amount rate
  check.sub amount taken

/-- How an amount is split at an accepted rate. -/
def FeeSplit.steps (amount : Word128) (rate : Word64) : m FeeSplit := do
  let taken ← feeSteps check amount rate
  let left ← check.sub amount taken
  return ⟨taken, left⟩

end Steps

/-- The fee on an amount. -/
def fee (amount : Word128) (rate : Word64) : Except FeeError Word128 := do
  checkRate rate
  return (feeSteps .ignored amount rate).run

/-- What is left of an amount after the fee. -/
def payout (amount : Word128) (rate : Word64) : Except FeeError Word128 := do
  checkRate rate
  return (payoutSteps .ignored amount rate).run

def FeeSplit.of (amount : Word128) (rate : Word64) : Except FeeError FeeSplit := do
  checkRate rate
  return (FeeSplit.steps .ignored amount rate).run

end CrossSwap
