import CrossSwap.Ledger.Instruction
import CrossSwap.Ledger.Snapshot
import CrossSwap.Relay.Envelope
import CrossSwap.Resolve.Accounts

/-!
# Resolving requests

A request is resolved into an instruction and the accounts that it needs.  The checks run in the
order in which they stand, so the first that fails names the error.
-/

namespace CrossSwap

/-- What is asked for, and who asks. -/
inductive Request where
  /-- Deposit what an order offers. -/
  | create (signer : Address) (order : SwapOrder)
  /-- Pay what an order asks for; the solver is paid from the escrow at the address that is given
  as text. -/
  | fill (signer : Address) (order : SwapOrder) (solverAddress : String)
  | cancel (signer : Address) (order : SwapOrder)
  /-- Deliver a relay message. -/
  | receiveMessage (signer : Address) (srcNid : String) (connSn : Word128) (msg : Bytes)
  deriving DecidableEq, Repr

namespace Request

def signer : Request → Address
  | create signer _ => signer
  | fill signer .. => signer
  | cancel signer _ => signer
  | receiveMessage signer .. => signer

def operation : Request → String
  | create .. => "create"
  | fill .. => "fill"
  | cancel .. => "cancel"
  | receiveMessage .. => "receive_message"

end Request

/-- An instruction and its accounts in order. -/
structure Resolved where
  instruction : Instruction
  accounts : List AccountEntry
  /-- The fee and the payout of a fill. -/
  settlement : Option FeeSplit
  deriving DecidableEq, Repr

namespace Program

open AccountEntry

variable (program : Program)

def resolveCreate (signer : Address) (order : SwapOrder) : Except ResolveError Resolved := do
  let creator ← parseAddress "creator" order.creator
  require (creator = signer) .signerMismatch
  let asset ← Asset.parse "token" order.token
  let config ← program.account .config
  let escrow ← program.escrow creator order
  let deposit ← program.depositAccounts signer asset
  return {
    instruction := .swap order
    accounts :=
      [.signer signer, readonly Address.systemProgram, writable config, writable escrow] ++
        deposit ++ [readonly Address.tokenProgram]
    settlement := none }

/-- The accounts that release the escrow, when the order is filled on its network of origin. -/
def ownRelease (order : SwapOrder) (solverAddress : String) :
    Except ResolveError (List AccountEntry) :=
  if order.isSameNetwork then do
    let solver ← parseAddress "solver_address" solverAddress
    program.release order solver
  else .ok []

def resolveFill (signer : Address) (order : SwapOrder) (solverAddress : String)
    (snapshot : Snapshot) : Except ResolveError Resolved := do
  require order.hasId .unassignedOrderId
  require (solverAddress ≠ "") .missingSolver
  require (order.destinationAddress ≠ "") .missingDestination
  let destination ← parseAddress "destination_address" order.destinationAddress
  let asset ← Asset.parse "to_token" order.toToken
  let settlement ← (FeeSplit.of order.toAmount snapshot.protocolFee).mapError ResolveError.fee
  let config ← program.account .config
  let finished ← program.account (.orderFinished order.hash)
  let payment ← program.paymentAccounts snapshot.feeHandler destination signer asset
  let released ← program.ownRelease order solverAddress
  return {
    instruction := .fill order solverAddress
    accounts :=
      [.signer signer, readonly Address.systemProgram, writable config,
        writable snapshot.feeHandler, writable destination, writable finished] ++ payment ++
        [readonly Address.tokenProgram, readonly Address.associatedTokenProgram] ++ released
    settlement := some settlement }

/-- The mark that finishes an order which is cancelled on the network that would fill it; on other
networks the relay settles the cancellation. -/
def cancelMark (order : SwapOrder) : Except ResolveError AccountEntry :=
  if order.isSameNetwork then do
    require order.hasId .unassignedOrderId
    return writable (← program.account (.orderFinished order.hash))
  else .ok program.unused

def resolveCancel (signer : Address) (order : SwapOrder) : Except ResolveError Resolved := do
  let creator ← parseAddress "creator" order.creator
  require (creator = signer) .signerMismatch
  let config ← program.account .config
  let escrow ← program.escrow creator order
  let mark ← program.cancelMark order
  return {
    instruction := .cancel order
    accounts :=
      [.signer signer, readonly Address.systemProgram, writable config, writable escrow, mark]
    settlement := none }

/-- The accounts that settle what a relay message says. -/
def settleAccounts (config : Address) (envelope : Envelope) :
    Except ResolveError (List AccountEntry) :=
  let order := envelope.order
  let srcNid := envelope.key.srcNid
  match envelope.resolution with
  | .fill f => do
    require (srcNid = order.dstNid) (.networkMismatch order.dstNid srcNid)
    let solver ← parseAddress "solver" f.solver
    program.release order solver
  | .cancel c => do
    require (srcNid = order.srcNid) (.networkMismatch order.srcNid srcNid)
    require order.hasId .unassignedOrderId
    let finished ← program.account (.orderFinished (Keccak.digest c.orderBytes))
    return [writable config, writable finished, program.unusedWritable]

/-- Resolves the delivery of a message that has been read.  Only the admin may deliver one, and its
bytes are passed on as they are. -/
def resolveEnvelope (signer : Address) (snapshot : Snapshot) (envelope : Envelope) (msg : Bytes) :
    Except ResolveError Resolved := do
  require (snapshot.admin = signer) .signerMismatch
  let config ← program.account .config
  let receipt ← program.account (.receipt envelope.key.srcNid envelope.key.connSn)
  let settled ← program.settleAccounts config envelope
  return {
    instruction := .recvMessage envelope.key.srcNid envelope.key.connSn msg
    accounts :=
      [.signer signer, readonly Address.systemProgram, readonly config, writable receipt] ++ settled
    settlement := none }

/-- Resolves a request against the settings of the network. -/
def resolve (request : Request) (snapshot : Snapshot) : Except ResolveError Resolved :=
  match request with
  | .create signer order => program.resolveCreate signer order
  | .fill signer order solverAddress => program.resolveFill signer order solverAddress snapshot
  | .cancel signer order => program.resolveCancel signer order
  | .receiveMessage signer srcNid connSn msg => do
    let envelope ← (Envelope.decode srcNid connSn msg).mapError ResolveError.encoding
    program.resolveEnvelope signer snapshot envelope msg

end Program

end CrossSwap
