import CrossSwap.Borsh.Layout
import CrossSwap.Order.Basic

/-!
# Orders in binary layout

The fields in the order of the canonical encoding.  Instructions, stored accounts and events hold
orders in this form.
-/

namespace CrossSwap.SwapOrder

open Borsh.Layout

def layout : Borsh.Layout SwapOrder :=
  iso
    (pair (word 16) <| pair text <| pair text <| pair text <| pair text <| pair text <| pair text <|
      pair (word 16) <| pair text <| pair (word 16) blob)
    (fun (id, emitter, srcNid, dstNid, creator, destinationAddress, token, amount, toToken, toAmount,
        data) =>
      { id, emitter, srcNid, dstNid, creator, destinationAddress, token, amount, toToken, toAmount,
        data })
    (fun o => (o.id, o.emitter, o.srcNid, o.dstNid, o.creator, o.destinationAddress, o.token,
      o.amount, o.toToken, o.toAmount, o.data))
    (fun _ => rfl) (fun _ => rfl)

end CrossSwap.SwapOrder
