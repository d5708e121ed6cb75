import CrossSwap.Ledger.Derivation

/-!
# Accounts of the program

Each account that the program keeps has an address of its own, derived from seeds that say what the
account is for.  Numbers in seeds take sixteen bytes, most significant first.
-/

namespace CrossSwap

/-- What an account of the program is for. -/
inductive Purpose where
  /-- The settings of the network. -/
  | config
  /-- The deposits in the native asset. -/
  | vaultNative
  /-- The deposits in a token. -/
  | vaultToken (mint : Address)
  /-- An order in escrow. -/
  | order (creator : Address) (dstNid : String) (amount toAmount : Word128)
  /-- The mark of a finished order. -/
  | orderFinished (hash : Digest)
  /-- The receipt of a relay message. -/
  | receipt (srcNid : String) (connSn : Word128)
  deriving DecidableEq, Repr

/-- The sixteen bytes of a number in a seed. -/
def seedNumber (n : Word128) : Bytes :=
  Bytes.ofNatBE 16 n.toNat

def Purpose.seeds : Purpose → List Seed
  | .config => [⟨"config", Text.toBytes "config"⟩]
  | .vaultNative => [⟨"vault_native", Text.toBytes "vault_native"⟩]
  | .vaultToken mint => [⟨"vault_token", Text.toBytes "vault_token"⟩, ⟨"mint", mint.toBytes⟩]
  | .order creator dstNid amount toAmount =>
    [⟨"creator", creator.toBytes⟩, ⟨"dst_nid", Text.toBytes dstNid⟩, ⟨"amount", seedNumber amount⟩,
     ⟨"to_amount", seedNumber toAmount⟩]
  | .orderFinished hash => [⟨"order_hash", hash.toBytes⟩]
  | .receipt srcNid connSn =>
    [⟨"receipt", Text.toBytes "receipt"⟩, ⟨"src_nid", Text.toBytes srcNid⟩,
     ⟨"conn_sn", seedNumber connSn⟩]

/-- A deployed program. -/
structure Program where
  address : Address
  deriving DecidableEq, Repr

/-- The address of an account of the program. -/
def Program.derive (program : Program) (purpose : Purpose) : Except DerivationError Derived :=
  Derived.derive program.address purpose.seeds

/-- The account that holds an owner's balance of a token. -/
def associatedToken (owner mint : Address) : Except DerivationError Address := do
  let d ← Derived.derive Address.associatedTokenProgram
    [⟨"owner", owner.toBytes⟩, ⟨"token_program", Address.tokenProgram.toBytes⟩,
     ⟨"mint", mint.toBytes⟩]
  return d.address

end CrossSwap
