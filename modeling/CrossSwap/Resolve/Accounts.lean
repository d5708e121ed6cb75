import CrossSwap.Ledger.Program
import CrossSwap.Order.Basic
import CrossSwap.Resolve.Asset

/-!
# Accounts of an instruction

An instruction lists the accounts that it touches in a fixed order, each with what may be done to
it.  A place that an operation does not use is filled with the program's own address, which the
program reads as no account.
-/

namespace CrossSwap

/-- An account in the list of an instruction. -/
structure AccountEntry where
  address : Address
  isWritable : Bool
  isSigner : Bool
  deriving DecidableEq, Repr

namespace AccountEntry

/-- The account that signs and pays. -/
def signer (a : Address) : AccountEntry :=
  ⟨a, true, true⟩

def writable (a : Address) : AccountEntry :=
  ⟨a, true, false⟩

def readonly (a : Address) : AccountEntry :=
  ⟨a, false, false⟩

end AccountEntry

namespace Program

open AccountEntry

/-- The address of an account of the program. -/
def account (program : Program) (purpose : Purpose) : Except ResolveError Address :=
  match program.derive purpose with
  | .ok d => .ok d.address
  | .error e => .error (.derivation e)

/-- The address of an owner's token account. -/
def tokenAccount (owner mint : Address) : Except ResolveError Address :=
  (associatedToken owner mint).mapError .derivation

/-- The escrow of an order. -/
def escrow (program : Program) (creator : Address) (order : SwapOrder) :
    Except ResolveError Address :=
  program.account (.order creator order.dstNid order.amount order.toAmount)

/-- An unused place. -/
def unused (program : Program) : AccountEntry :=
  readonly program.address

/-- An unused place among writable accounts. -/
def unusedWritable (program : Program) : AccountEntry :=
  writable program.address

/-- The accounts that a deposit moves between. -/
def depositAccounts (program : Program) (depositor : Address) :
    Asset → Except ResolveError (List AccountEntry)
  | .native => do
    let vault ← program.account .vaultNative
    return [writable vault, program.unused, program.unused, program.unused]
  | .token mint => do
    let vault ← program.account (.vaultToken mint)
    let wallet ← tokenAccount depositor mint
    return [program.unused, writable vault, writable wallet, readonly mint]

/-- The accounts that a payment to a destination moves between. -/
def paymentAccounts (program : Program) (feeHandler destination payer : Address) :
    Asset → Except ResolveError (List AccountEntry)
  | .native => .ok [program.unused, program.unused, program.unused, program.unused]
  | .token mint => do
    let feeWallet ← tokenAccount feeHandler mint
    let destinationWallet ← tokenAccount destination mint
    let payerWallet ← tokenAccount payer mint
    return [writable feeWallet, writable destinationWallet, writable payerWallet, readonly mint]

/-- The accounts that the release of a deposit moves between. -/
def releaseAccounts (program : Program) (solver : Address) :
    Asset → Except ResolveError (List AccountEntry)
  | .native => do
    let vault ← program.account .vaultNative
    return [program.unusedWritable, writable vault, program.unusedWritable, program.unusedWritable]
  | .token mint => do
    let vault ← program.account (.vaultToken mint)
    let wallet ← tokenAccount solver mint
    return [writable wallet, program.unusedWritable, writable vault, writable mint]

/-- The accounts that release the escrow of an order to a solver.  All are writable. -/
def release (program : Program) (order : SwapOrder) (solver : Address) :
    Except ResolveError (List AccountEntry) := do
  let creator ← parseAddress "creator" order.creator
  let asset ← Asset.parse "token" order.token
  let config ← program.account .config
  let escrow ← program.escrow creator order
  let moved ← program.releaseAccounts solver asset
  return [writable config, writable escrow, writable creator, writable solver] ++ moved ++
    [writable Address.tokenProgram, writable Address.associatedTokenProgram]

end Program

end CrossSwap
