import CrossSwap.Canonical.Error
import CrossSwap.Ledger.Derivation
import CrossSwap.Order.Fee

/-!
# Refused requests
-/

namespace CrossSwap

/-- Why an instruction cannot be built. -/
inductive ResolveError where
  | encoding (error : EncodingError)
  | derivation (error : DerivationError)
  | fee (error : FeeError)
  | unsupportedAsset (field value : String)
  | invalidAddress (field : String)
  | missingSolver
  | missingDestination
  | unassignedOrderId
  | signerMismatch
  | networkMismatch (expected found : String)
  deriving DecidableEq, Repr

def ResolveError.message : ResolveError → String
  | .encoding e => s!"Encoding error: {e.message}"
  | .derivation e => s!"Address derivation failed: {e.message}"
  | .fee e => s!"Fee error: {e.message}"
  | .unsupportedAsset field value => s!"Unsupported asset in {field}: {value}"
  | .invalidAddress field => s!"Invalid address in {field}"
  | .missingSolver => "Solver address is missing"
  | .missingDestination => "Destination address is missing"
  | .unassignedOrderId => "Order id is not assigned"
  | .signerMismatch => "Signer does not match the required authority"
  | .networkMismatch expected found =>
    s!"Message network mismatch: expected {expected}, found {found}"

/-- Fails with an error unless a condition holds. -/
def require {ε : Type} (p : Prop) [Decidable p] (e : ε) : Except ε Unit :=
  if p then .ok () else .error e

@[simp] theorem require_eq_ok_iff {ε : Type} {p : Prop} [Decidable p] {e : ε} {u : Unit} :
    require p e = .ok u ↔ p := by
  by_cases h : p <;> simp [require, h]

end CrossSwap
