import CrossSwap.Relay.Replay
import CrossSwap.Resolve.Request

/-!
# Routing relay messages

A dispatcher refuses a message whose key it has received, reads and resolves any other, and records
the key of a message only after it was resolved.  A message that could not be resolved may come
again.
-/

namespace CrossSwap

/-- A message as a relayer hands it in. -/
structure Delivery where
  signer : Address
  snapshot : Snapshot
  key : ReplayKey
  msg : Bytes
  deriving DecidableEq, Repr

/-- A message that was routed. -/
structure Dispatched where
  envelope : Envelope
  instruction : Resolved
  deriving DecidableEq, Repr

inductive DispatchError where
  | duplicate (error : DuplicateMessage)
  | resolve (error : ResolveError)
  deriving DecidableEq, Repr

def DispatchError.message : DispatchError → String
  | .duplicate e => e.message
  | .resolve e => e.message

structure Dispatcher where
  program : Program
  guard : ReplayGuard
  deriving DecidableEq

namespace Dispatcher

def new (program : Program) : Dispatcher :=
  ⟨program, .empty⟩

def isReceived (d : Dispatcher) (key : ReplayKey) : Bool :=
  d.guard.contains key

/-- Records a key that is known to be used up on the ledger. -/
def markReceived (d : Dispatcher) (key : ReplayKey) : Dispatcher :=
  { d with guard := d.guard.insert key }

/-- What routing a message gives. -/
def route (d : Dispatcher) (delivery : Delivery) : Except DispatchError Dispatched := do
  (d.guard.check delivery.key).mapError DispatchError.duplicate
  let envelope ← (Envelope.decode delivery.key.srcNid delivery.key.connSn delivery.msg).mapError
    fun e => DispatchError.resolve (.encoding e)
  let instruction ← (d.program.resolveEnvelope delivery.signer delivery.snapshot envelope
    delivery.msg).mapError DispatchError.resolve
  return ⟨envelope, instruction⟩

/-- Routes a message; the key is recorded when that succeeds. -/
def dispatch (d : Dispatcher) (delivery : Delivery) :
    Except DispatchError Dispatched × Dispatcher :=
  match d.route delivery with
  | .error e => (.error e, d)
  | .ok r =>
    match d.guard.accept delivery.key with
    | .error e => (.error (.duplicate e), d)
    | .ok guard => (.ok r, { d with guard })

/-- A use of a dispatcher. -/
inductive Call where
  | mark (key : ReplayKey)
  | isReceived (key : ReplayKey)
  | dispatch (delivery : Delivery)
  deriving DecidableEq, Repr

inductive Answer where
  | marked
  | received (yes : Bool)
  | dispatched (result : Except DispatchError Dispatched)

/-- The key that a call is about. -/
def Call.key : Call → ReplayKey
  | .mark key => key
  | .isReceived key => key
  | .dispatch delivery => delivery.key

/-- The answer to a call, and the dispatcher after it. -/
def call (d : Dispatcher) : Call → Answer × Dispatcher
  | .mark key => (.marked, d.markReceived key)
  | .isReceived key => (.received (d.isReceived key), d)
  | .dispatch delivery => ((d.dispatch delivery).map .dispatched id)

/-- The answer to each of a list of calls, and the dispatcher after it. -/
def trace : Dispatcher → List Call → List (Answer × Dispatcher)
  | _, [] => []
  | d, c :: cs => d.call c :: trace (d.call c).2 cs

end Dispatcher

end CrossSwap
