import CrossSwap.Canonical.Entity
import CrossSwap.Hash.Keccak

/-!
# Swap orders

An order offers `amount` of `token` on one network for `toAmount` of `toToken` on another.  Its id
is zero until the network of origin assigns one.  The hash of its canonical bytes names it wherever
the whole order has to be told from others.
-/

namespace CrossSwap

structure SwapOrder where
  id : Word128
  /-- The program that announced the order on the network of origin. -/
  emitter : String
  /-- The network of origin. -/
  srcNid : String
  /-- The network that the order is filled on. -/
  dstNid : String
  creator : String
  /-- Who receives `toToken`. -/
  destinationAddress : String
  token : String
  amount : Word128
  toToken : String
  toAmount : Word128
  data : Bytes
  deriving DecidableEq, Repr

namespace SwapOrder

def hasId (order : SwapOrder) : Bool :=
  order.id != 0

/-- Whether the order is filled on the network of origin. -/
def isSameNetwork (order : SwapOrder) : Bool :=
  order.srcNid == order.dstNid

def withId (order : SwapOrder) (id : Word128) : SwapOrder :=
  { order with id }

/-- The encoded fields in order. -/
def items (order : SwapOrder) : List Bytes :=
  [Rlp.ofNat order.id.toNat,
   Rlp.ofData (Text.toBytes order.emitter),
   Rlp.ofData (Text.toBytes order.srcNid),
   Rlp.ofData (Text.toBytes order.dstNid),
   Rlp.ofData (Text.toBytes order.creator),
   Rlp.ofData (Text.toBytes order.destinationAddress),
   Rlp.ofData (Text.toBytes order.token),
   Rlp.ofNat order.amount.toNat,
   Rlp.ofData (Text.toBytes order.toToken),
   Rlp.ofNat order.toAmount.toNat,
   Rlp.ofData order.data]

open FieldReader in
/-- Reads the fields in order. -/
def read : FieldReader SwapOrder := do
  let id ← value Word128 0 "id"
  let emitter ← text 1 "emitter"
  let srcNid ← text 2 "src_nid"
  let dstNid ← text 3 "dst_nid"
  let creator ← text 4 "creator"
  let destinationAddress ← text 5 "destination_address"
  let token ← text 6 "token"
  let amount ← value Word128 7 "amount"
  let toToken ← text 8 "to_token"
  let toAmount ← value Word128 9 "to_amount"
  let data ← bytes 10 "data"
  return { id, emitter, srcNid, dstNid, creator, destinationAddress, token, amount, toToken,
           toAmount, data }

instance : Entity SwapOrder where
  name := "SwapOrder"
  fieldCount := 11
  items := items
  read := read

instance : Rlp.Readable SwapOrder :=
  Entity.readable SwapOrder

/-- The digest of the canonical bytes. -/
def hash (order : SwapOrder) : Digest :=
  Keccak.digest (Entity.encode order)

end SwapOrder

end CrossSwap
