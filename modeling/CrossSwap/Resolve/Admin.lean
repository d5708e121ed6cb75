import CrossSwap.Resolve.Request

/-!
# Settings of the network

The instructions that create and change the settings.  Only the admin may change them.
-/

namespace CrossSwap.Program

open AccountEntry

variable (program : Program)

/-- Creates the settings and the native vault. -/
def setUp (signer : Address) (networkId : String) (feeHandler : Address) :
    Except ResolveError Resolved := do
  let config ← program.account .config
  let vault ← program.account .vaultNative
  return {
    instruction := .setUp networkId feeHandler
    accounts :=
      [writable config, writable vault, .signer signer, readonly Address.systemProgram]
    settlement := none }

/-- An instruction that changes the settings. -/
def changeSettings (snapshot : Snapshot) (signer : Address) (instruction : Instruction) :
    Except ResolveError Resolved := do
  require (snapshot.admin = signer) .signerMismatch
  let config ← program.account .config
  return { instruction, accounts := [writable config, .signer signer], settlement := none }

def setAdmin (snapshot : Snapshot) (signer account : Address) : Except ResolveError Resolved :=
  program.changeSettings snapshot signer (.setAdmin account)

/-- Sets the protocol fee, in basis points. -/
def setProtocolFee (snapshot : Snapshot) (signer : Address) (fee : Word64) :
    Except ResolveError Resolved := do
  (checkRate fee).mapError ResolveError.fee
  program.changeSettings snapshot signer (.setProtocolFee fee)

def setFeeHandler (snapshot : Snapshot) (signer feeHandler : Address) :
    Except ResolveError Resolved :=
  program.changeSettings snapshot signer (.setFeeHandler feeHandler)

end CrossSwap.Program
