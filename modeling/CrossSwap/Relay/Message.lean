import CrossSwap.Order.Basic

/-!
# Relay messages

A relay message carries a tag and a payload.  The payload confirms that an order was filled, or asks
to cancel one, and it is only ever read as what the tag says.
-/

namespace CrossSwap

/-- An order was filled. -/
structure OrderFill where
  id : Word128
  /-- The canonical bytes of the order. -/
  orderBytes : Bytes
  /-- Who receives the escrowed funds on the network of origin. -/
  solver : String
  deriving DecidableEq, Repr

/-- An order is to be cancelled. -/
structure OrderCancel where
  /-- The canonical bytes of the order. -/
  orderBytes : Bytes
  deriving DecidableEq, Repr

inductive MessageType where
  | fill
  | cancel
  deriving DecidableEq, Repr

structure OrderMessage where
  messageType : MessageType
  payload : Bytes
  deriving DecidableEq, Repr

namespace OrderFill

/-- The confirmation that `order` was filled by `solver`. -/
def forOrder (order : SwapOrder) (solver : String) : OrderFill :=
  ⟨order.id, Entity.encode order, solver⟩

def order (fill : OrderFill) : Except EncodingError SwapOrder :=
  Entity.decode SwapOrder fill.orderBytes

open FieldReader in
instance : Entity OrderFill where
  name := "OrderFill"
  fieldCount := 3
  items fill :=
    [Rlp.ofNat fill.id.toNat, Rlp.ofData fill.orderBytes, Rlp.ofData (Text.toBytes fill.solver)]
  read := do
    let id ← value Word128 0 "id"
    let orderBytes ← bytes 1 "order_bytes"
    let solver ← text 2 "solver"
    return ⟨id, orderBytes, solver⟩

instance : Rlp.Readable OrderFill :=
  Entity.readable OrderFill

end OrderFill

namespace OrderCancel

/-- The request to cancel `order`. -/
def forOrder (order : SwapOrder) : OrderCancel :=
  ⟨Entity.encode order⟩

def order (cancel : OrderCancel) : Except EncodingError SwapOrder :=
  Entity.decode SwapOrder cancel.orderBytes

open FieldReader in
instance : Entity OrderCancel where
  name := "OrderCancel"
  fieldCount := 1
  items cancel := [Rlp.ofData cancel.orderBytes]
  read := do
    let orderBytes ← bytes 0 "order_bytes"
    return ⟨orderBytes⟩

instance : Rlp.Readable OrderCancel :=
  Entity.readable OrderCancel

end OrderCancel

namespace MessageType

def code : MessageType → Nat
  | .fill => 1
  | .cancel => 2

def name : MessageType → String
  | .fill => "fill"
  | .cancel => "cancel"

def ofCode : Nat → Except EncodingError MessageType
  | 1 => .ok .fill
  | 2 => .ok .cancel
  | n => .error (.unknownMessageType n)

end MessageType

/-- What a message says about its order. -/
inductive Resolution where
  | fill (fill : OrderFill)
  | cancel (cancel : OrderCancel)
  deriving DecidableEq, Repr

namespace Resolution

def messageType : Resolution → MessageType
  | .fill _ => .fill
  | .cancel _ => .cancel

def orderBytes : Resolution → Bytes
  | .fill f => f.orderBytes
  | .cancel c => c.orderBytes

/-- The solver that a fill names. -/
def solver? : Resolution → Option String
  | .fill f => some f.solver
  | .cancel _ => none

end Resolution

namespace OrderMessage

def fill (f : OrderFill) : OrderMessage :=
  ⟨.fill, Entity.encode f⟩

def cancel (c : OrderCancel) : OrderMessage :=
  ⟨.cancel, Entity.encode c⟩

/-- The payload, read as what the tag says. -/
def resolution (message : OrderMessage) : Except EncodingError Resolution :=
  match message.messageType with
  | .fill => (Entity.decode OrderFill message.payload).map .fill
  | .cancel => (Entity.decode OrderCancel message.payload).map .cancel

open FieldReader in
instance : Entity OrderMessage where
  name := "OrderMessage"
  fieldCount := 2
  items message := [Rlp.ofNat message.messageType.code, Rlp.ofData message.payload]
  read := do
    let code ← value (BitVec 32) 0 "message_type"
    let messageType ← MessageType.ofCode code.toNat
    let payload ← bytes 1 "payload"
    return ⟨messageType, payload⟩

instance : Rlp.Readable OrderMessage :=
  Entity.readable OrderMessage

end OrderMessage

end CrossSwap
