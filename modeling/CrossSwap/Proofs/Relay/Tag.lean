import CrossSwap.Proofs.Relay.Envelope

/-!
# What the tag of a message decides

A message is read as what its tag says and as nothing else.  Under its own tag an order comes out as
it was sent; under the other tag the payload is refused for its number of fields, whatever bytes it
carries for its order.
-/

namespace CrossSwap

/-- The canonical bytes of what is said about an order. -/
def Resolution.payload : Resolution → Bytes
  | .fill f => Entity.encode f
  | .cancel c => Entity.encode c

/-- Why a payload of the other kind is refused under a tag. -/
def MessageType.otherPayload : MessageType → EncodingError
  | .fill => .fieldCount "OrderFill" 3 1
  | .cancel => .fieldCount "OrderCancel" 1 3

theorem OrderMessage.resolution_of_ne_messageType (resolution : Resolution) (tag : MessageType)
    (htag : tag ≠ resolution.messageType) (hlt : resolution.payload.length < Rlp.sizeLimit) :
    (OrderMessage.mk tag resolution.payload).resolution = .error tag.otherPayload := by
  -- The number of fields is read first, so nothing that the payload carries matters.
  cases resolution with
  | fill f =>
      cases tag with
      | fill => exact absurd rfl htag
      | cancel =>
          have hdecode : Entity.decode OrderCancel (Entity.encode f) = _ :=
            Entity.decode_encode_of_fieldCount_ne (by decide) hlt
          change (Entity.decode OrderCancel (Entity.encode f)).map _ = _
          rw [hdecode]
          rfl
  | cancel c =>
      cases tag with
      | fill =>
          have hdecode : Entity.decode OrderFill (Entity.encode c) = _ :=
            Entity.decode_encode_of_fieldCount_ne (by decide) hlt
          change (Entity.decode OrderFill (Entity.encode c)).map _ = _
          rw [hdecode]
          rfl
      | cancel => exact absurd rfl htag

/-- The bytes of the message that asks to cancel an order. -/
def SwapOrder.cancelMessage (order : SwapOrder) : Bytes :=
  Entity.encode (OrderMessage.cancel (.forOrder order))

namespace Envelope

variable {srcNid : String} {connSn : Word128}

/-- A requested cancellation is delivered with its order and without a solver. -/
theorem decode_cancelMessage {order : SwapOrder}
    (hlt : order.cancelMessage.length < Rlp.sizeLimit) :
    decode srcNid connSn order.cancelMessage =
      .ok ⟨⟨srcNid, connSn⟩, .cancel, order, none, .cancel (.forOrder order)⟩ :=
  decode_message_of_eq_encode (.cancel (.forOrder order)) rfl hlt

/-- A payload under a tag that is not its own is never delivered. -/
theorem decode_of_ne_messageType (resolution : Resolution) (tag : MessageType)
    (htag : tag ≠ resolution.messageType)
    (hlt : (Entity.encode (OrderMessage.mk tag resolution.payload)).length < Rlp.sizeLimit) :
    decode srcNid connSn (Entity.encode (OrderMessage.mk tag resolution.payload)) =
      .error tag.otherPayload := by
  have hpayload : resolution.payload.length < Rlp.sizeLimit :=
    Nat.lt_of_le_of_lt (OrderMessage.mk tag resolution.payload).length_payload_le hlt
  have hresolution := OrderMessage.resolution_of_ne_messageType resolution tag htag hpayload
  exact decode_of_resolution_eq_error hresolution hlt

/-- Orders are delivered as they were confirmed or cancelled, and no payload is delivered under the
tag of the other kind. -/
theorem decode_tagged (srcNid : String) (connSn : Word128) :
    (∀ (order : SwapOrder) (solver : String),
      (order.fillMessage solver).length < Nat.pow 2 64 →
        decode srcNid connSn (order.fillMessage solver) =
          .ok { key := ⟨srcNid, connSn⟩, messageType := .fill, order, solver := some solver
                resolution := .fill (.forOrder order solver) }) ∧
      (∀ order : SwapOrder, order.cancelMessage.length < Nat.pow 2 64 →
        decode srcNid connSn order.cancelMessage =
          .ok { key := ⟨srcNid, connSn⟩, messageType := .cancel, order, solver := none
                resolution := .cancel (.forOrder order) }) ∧
      (∀ fill : OrderFill,
        let message : OrderMessage := ⟨.cancel, Entity.encode fill⟩
        (Entity.encode message).length < Nat.pow 2 64 →
          decode srcNid connSn (Entity.encode message) =
            .error (.fieldCount "OrderCancel" 1 3)) ∧
      ∀ cancel : OrderCancel,
        let message : OrderMessage := ⟨.fill, Entity.encode cancel⟩
        (Entity.encode message).length < Nat.pow 2 64 →
          decode srcNid connSn (Entity.encode message) = .error (.fieldCount "OrderFill" 3 1) := by
  refine ⟨?_, ?_, ?_, ?_⟩
  · intro order solver hlt
    exact decode_fillMessage hlt
  · intro order hlt
    exact decode_cancelMessage hlt
  · intro fill message hlt
    have htag : MessageType.cancel ≠ (Resolution.fill fill).messageType := nofun
    exact decode_of_ne_messageType (.fill fill) .cancel htag hlt
  · intro cancel message hlt
    have htag : MessageType.fill ≠ (Resolution.cancel cancel).messageType := nofun
    exact decode_of_ne_messageType (.cancel cancel) .fill htag hlt

/-- The order bytes of the fill are those of a cancellation, and those of the cancellation are those
of the fill. -/
theorem decode_tagged_nested :
    let order : SwapOrder :=
      { id := 300, emitter := "", srcNid := "a", dstNid := "ä", creator := "b"
        destinationAddress := "c", token := "d", amount := BitVec.allOnes 128, toToken := "e"
        toAmount := 128, data := List.replicate 60 0xC1 }
    let fill : OrderFill := ⟨1, [0xC1, 0x80], "s"⟩
    let cancel : OrderCancel := ⟨Entity.encode fill⟩
    decode "n" 5 (order.fillMessage "s") =
        .ok ⟨⟨"n", 5⟩, .fill, order, some "s", .fill (.forOrder order "s")⟩ ∧
      decode "n" 5 order.cancelMessage =
        .ok ⟨⟨"n", 5⟩, .cancel, order, none, .cancel (.forOrder order)⟩ ∧
      decode "n" 5 (Entity.encode (OrderMessage.mk .cancel (Entity.encode fill))) =
        .error (.fieldCount "OrderCancel" 1 3) ∧
      decode "n" 5 (Entity.encode (OrderMessage.mk .fill (Entity.encode cancel))) =
        .error (.fieldCount "OrderFill" 3 1) := by
  intro order fill cancel
  obtain ⟨hfill, hcancel, hother, hother'⟩ := decode_tagged "n" 5
  exact ⟨hfill order "s" (by decide +kernel), hcancel order (by decide +kernel),
    hother fill (by decide), hother' cancel (by decide)⟩

end Envelope

end CrossSwap
