/-!
# The life of an order

A created order is filled or cancelled, and either of them is resolved, which finishes the order.
Every other event is refused and leaves the order as it is.
-/

namespace CrossSwap

inductive OrderState where
  /-- In escrow on the network of origin. -/
  | created
  /-- Paid out, with the escrow not yet released. -/
  | filled
  /-- Cancellation is requested and not yet settled. -/
  | cancelled
  | finished
  deriving DecidableEq, Repr

inductive OrderEvent where
  | fill
  | cancel
  /-- The resolution of a fill or a cancellation is complete. -/
  | resolve
  deriving DecidableEq, Repr

def OrderState.name : OrderState → String
  | .created => "created"
  | .filled => "filled"
  | .cancelled => "cancelled"
  | .finished => "finished"

def OrderEvent.name : OrderEvent → String
  | .fill => "fill"
  | .cancel => "cancel"
  | .resolve => "resolve"

inductive TransitionError where
  | alreadyFinished
  | invalidTransition (state : OrderState) (event : OrderEvent)
  deriving DecidableEq, Repr

def TransitionError.message : TransitionError → String
  | .alreadyFinished => "Order already finished"
  | .invalidTransition state event =>
    s!"Invalid order transition from {state.name} on {event.name}"

namespace OrderState

def isTerminal (state : OrderState) : Bool :=
  state == .finished

/-- The state after an event. -/
def apply : OrderState → OrderEvent → Except TransitionError OrderState
  | .finished, _ => .error .alreadyFinished
  | .created, .fill => .ok .filled
  | .created, .cancel => .ok .cancelled
  | .filled, .resolve => .ok .finished
  | .cancelled, .resolve => .ok .finished
  | state, event => .error (.invalidTransition state event)

/-- The state after an event that may be refused. -/
def next (state : OrderState) (event : OrderEvent) : OrderState :=
  match state.apply event with
  | .ok state' => state'
  | .error _ => state

/-- What each of a list of events gives, and the state after it. -/
def trace : OrderState → List OrderEvent → List (Except TransitionError OrderState × OrderState)
  | _, [] => []
  | state, event :: events => (state.apply event, state.next event) :: trace (state.next event) events

end OrderState

end CrossSwap
