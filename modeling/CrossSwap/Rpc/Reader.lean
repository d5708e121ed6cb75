import CrossSwap.Deployment.Config
import CrossSwap.Ledger.Snapshot
import CrossSwap.Relay.Replay
import CrossSwap.Rpc.Reply
import CrossSwap.Text.Base64

/-!
# Reading accounts over RPC

A reader asks an endpoint for one account of the program and reads the account from the reply.  An
account that is not there is an answer; a reply that cannot be understood is an error and never an
answer.
-/

namespace CrossSwap

open Rpc

/-- What comes of sending a request. -/
inductive Exchange where
  /-- No answer came. -/
  | failed
  | answered (body : String)
  deriving DecidableEq, Repr

inductive ReadError where
  | derivation (error : DerivationError)
  /-- The endpoint gave no answer. -/
  | noAnswer
  | malformedReply
  /-- The reply carries an error. -/
  | refused (message : String)
  | malformedData
  | missingConfig (address : Address)
  | state (error : StateError)
  | fee (error : FeeError)
  deriving DecidableEq, Repr

def ReadError.message : ReadError → String
  | .derivation e => e.message
  | .noAnswer => "Failed to call getAccountInfo"
  | .malformedReply => "Failed to parse getAccountInfo response"
  | .refused message => s!"SVM RPC error: {message}"
  | .malformedData => "Failed to decode base64 account data"
  | .missingConfig address =>
    let text := address.toText
    s!"Config account {text} not found"
  | .state e => e.message
  | .fee e => e.message

/-- A program, and an endpoint that its accounts are read from. -/
structure Reader where
  program : Program
  /-- Sends a request. -/
  send : Json.Value → Exchange

/-- The data that a reply carries, if there is an account. -/
def Rpc.Reply.data? (reply : Reply) : Except ReadError (Option Bytes) :=
  match reply.error with
  | some message => .error (.refused message)
  | none =>
    match reply.result.bind Result.account with
    | none => .ok none
    | some sent =>
      match Base64.decode? sent.content.toList with
      | some d => .ok (some d)
      | none => .error .malformedData

/-- The data that came of sending a request. -/
def Exchange.data? : Exchange → Except ReadError (Option Bytes)
  | .failed => .error .noAnswer
  | .answered body =>
    match Json.decode Reply body with
    | some reply => reply.data?
    | none => .error .malformedReply

namespace Reader

/-- The reader of a deployment. -/
def ofDeployment (d : Deployment) (send : Json.Value → Exchange) : Except ConfigError Reader := do
  return ⟨← d.program, send⟩

/-- The data of an account, if there is one. -/
def accountData? (r : Reader) (address : Address) : Except ReadError (Option Bytes) :=
  (r.send (accountRequest address.toText)).data?

/-- The address of an account of the program. -/
def address (r : Reader) (purpose : Purpose) : Except ReadError Address := do
  return (← (r.program.derive purpose).mapError ReadError.derivation).address

/-- The account that data holds. -/
def account (α : Type) [StoredAccount α] (d : Bytes) : Except ReadError α :=
  (StoredAccount.ofData α d).mapError .state

/-- The account at an address, if there is one. -/
def account? (r : Reader) (α : Type) [StoredAccount α] (address : Address) :
    Except ReadError (Option α) := do
  match ← r.accountData? address with
  | none => return none
  | some d => return some (← account α d)

/-- A snapshot of the settings with a valid fee. -/
def snapshot (r : Reader) : Except ReadError Snapshot := do
  let address ← r.address .config
  match ← r.account? ConfigAccount address with
  | none => .error (.missingConfig address)
  | some a =>
    let s := Snapshot.ofAccount a
    s.validate.mapError ReadError.fee
    return s

/-- Whether the receipt of a message is there and set. -/
def isReceived (r : Reader) (key : ReplayKey) : Except ReadError Bool := do
  let a ← r.account? ReceiptAccount (← r.address (.receipt key.srcNid key.connSn))
  return a.any ReceiptAccount.received

/-- Whether the mark of a finished order is there and set. -/
def isFinished (r : Reader) (order : SwapOrder) : Except ReadError Bool := do
  let a ← r.account? OrderFinishedAccount (← r.address (.orderFinished order.hash))
  return a.any OrderFinishedAccount.finished

/-- The order in escrow at an address, if there is one. -/
def order? (r : Reader) (address : Address) : Except ReadError (Option SwapOrder) := do
  return (← r.account? OrderAccount address).map OrderAccount.order

end Reader

end CrossSwap
