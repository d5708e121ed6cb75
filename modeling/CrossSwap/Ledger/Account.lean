import CrossSwap.Ledger.Address
import CrossSwap.Ledger.Discriminator
import CrossSwap.Order.Layout

/-!
# Stored accounts

What the program keeps at its addresses: a discriminator and the binary layout of the account.  An
account has a fixed size on the ledger, so bytes may follow.
-/

namespace CrossSwap

/-- Why bytes from the ledger are refused. -/
inductive StateError where
  | tooShort (account : String) (length : Nat)
  | discriminatorMismatch (account : String)
  | malformed (account : String) (fault : Borsh.Fault)
  deriving DecidableEq, Repr

def StateError.message : StateError → String
  | .tooShort account length => s!"{account}: data too short ({length} bytes)"
  | .discriminatorMismatch account => s!"{account}: discriminator mismatch"
  | .malformed account fault => s!"{account}: {fault.message}"

/-- Types that the program stores. -/
class StoredAccount (α : Type) where
  name : String
  layout : Borsh.Layout α

namespace StoredAccount

def discriminator (α : Type) [StoredAccount α] : Bytes :=
  CrossSwap.discriminator .account (name α)

/-- The data of an account, as the program stores it. -/
def toData {α : Type} [StoredAccount α] (a : α) : Except StateError Bytes := do
  let body ← (layout.write a).mapError (.malformed (name α))
  return discriminator α ++ body

/-- The account that data starts with. -/
def ofData (α : Type) [StoredAccount α] (d : Bytes) : Except StateError α :=
  if d.length < discriminatorSize then .error (.tooShort (name α) d.length)
  else if d.take discriminatorSize ≠ discriminator α then .error (.discriminatorMismatch (name α))
  else
    match layout.read (d.drop discriminatorSize) with
    | .ok (a, _) => .ok a
    | .error fault => .error (.malformed (name α) fault)

end StoredAccount

open Borsh.Layout

/-- The settings of a network. -/
structure ConfigAccount where
  admin : Address
  feeHandler : Address
  networkId : String
  /-- In basis points. -/
  protocolFee : Word64
  /-- The id of the last order. -/
  depositId : Word128
  /-- The number of the last message sent. -/
  connSn : Word128
  bump : UInt8
  deriving DecidableEq, Repr

/-- An order in escrow. -/
structure OrderAccount where
  order : SwapOrder
  bump : UInt8
  deriving DecidableEq, Repr

/-- The mark of a finished order. -/
structure OrderFinishedAccount where
  finished : Bool
  bump : UInt8
  deriving DecidableEq, Repr

/-- The receipt of a relay message. -/
structure ReceiptAccount where
  received : Bool
  bump : UInt8
  deriving DecidableEq, Repr

instance : StoredAccount ConfigAccount where
  name := "Config"
  layout :=
    iso
      (pair Address.layout <| pair Address.layout <| pair text <| pair (word 8) <| pair (word 16) <|
        pair (word 16) byte)
      (fun (admin, feeHandler, networkId, protocolFee, depositId, connSn, bump) =>
        { admin, feeHandler, networkId, protocolFee, depositId, connSn, bump })
      (fun a => (a.admin, a.feeHandler, a.networkId, a.protocolFee, a.depositId, a.connSn, a.bump))
      (fun _ => rfl) (fun _ => rfl)

instance : StoredAccount OrderAccount where
  name := "OrderAccount"
  layout := iso (pair SwapOrder.layout byte) (fun p => ⟨p.1, p.2⟩) (fun a => (a.order, a.bump))
    (fun _ => rfl) (fun _ => rfl)

instance : StoredAccount OrderFinishedAccount where
  name := "OrderFinished"
  layout := iso (pair flag byte) (fun p => ⟨p.1, p.2⟩) (fun a => (a.finished, a.bump))
    (fun _ => rfl) (fun _ => rfl)

instance : StoredAccount ReceiptAccount where
  name := "Receipt"
  layout := iso (pair flag byte) (fun p => ⟨p.1, p.2⟩) (fun a => (a.received, a.bump))
    (fun _ => rfl) (fun _ => rfl)

end CrossSwap
