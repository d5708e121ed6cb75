import CrossSwap.Proofs.Relay.Entities
import CrossSwap.Relay.Envelope

/-!
# What is accepted as an envelope

An envelope is read in three steps, each as strict as the reading of an entity.  The bytes that it
carries for its order need not be the canonical ones.
-/

namespace CrossSwap

theorem OrderMessage.length_payload_le (message : OrderMessage) :
    message.payload.length ≤ (Entity.encode message).length :=
  Entity.length_le_length_encode (List.mem_cons_of_mem _ (List.mem_singleton.mpr rfl))

theorem OrderFill.length_orderBytes_le (fill : OrderFill) :
    fill.orderBytes.length ≤ (Entity.encode fill).length :=
  Entity.length_le_length_encode (List.mem_cons_of_mem _ List.mem_cons_self)

theorem OrderCancel.length_orderBytes_le (cancel : OrderCancel) :
    cancel.orderBytes.length ≤ (Entity.encode cancel).length :=
  Entity.length_le_length_encode List.mem_cons_self

/-- The message that carries what is said about an order. -/
def Resolution.message : Resolution → OrderMessage
  | .fill f => .fill f
  | .cancel c => .cancel c

theorem Resolution.length_orderBytes_le (resolution : Resolution) :
    resolution.orderBytes.length ≤ (Entity.encode resolution.message).length := by
  have hpayload := resolution.message.length_payload_le
  cases resolution with
  | fill f => exact Nat.le_trans f.length_orderBytes_le hpayload
  | cancel c => exact Nat.le_trans c.length_orderBytes_le hpayload

/-- What a message was made to carry is read from it. -/
theorem Resolution.resolution_message (resolution : Resolution)
    (hlt : (Entity.encode resolution.message).length < Rlp.sizeLimit) :
    resolution.message.resolution = .ok resolution := by
  have hpayload := Nat.lt_of_le_of_lt resolution.message.length_payload_le hlt
  cases resolution with
  | fill f => exact map_eq_ok_iff.mpr ⟨f, Entity.decode_encode hpayload, rfl⟩
  | cancel c => exact map_eq_ok_iff.mpr ⟨c, Entity.decode_encode hpayload, rfl⟩

namespace Envelope

variable {srcNid : String} {connSn : Word128} {msg : Bytes} {envelope : Envelope}

theorem decode_eq_ok_iff :
    decode srcNid connSn msg = .ok envelope ↔
      envelope.key = ⟨srcNid, connSn⟩ ∧
        envelope.solver = envelope.resolution.solver? ∧
          Entity.decode SwapOrder envelope.resolution.orderBytes = .ok envelope.order ∧
            ∃ message, Entity.decode OrderMessage msg = .ok message ∧
              message.messageType = envelope.messageType ∧
                message.resolution = .ok envelope.resolution := by
  constructor
  · intro h
    obtain ⟨message, hmessage, hrest⟩ := bind_eq_ok_iff.mp h
    obtain ⟨resolution, hresolution, horder⟩ := bind_eq_ok_iff.mp hrest
    obtain ⟨order, hdecode, hpure⟩ := bind_eq_ok_iff.mp horder
    rw [pure_eq_ok_iff] at hpure
    subst hpure
    exact ⟨rfl, rfl, hdecode, message, hmessage, rfl, hresolution⟩
  · rintro ⟨hkey, hsolver, hdecode, message, hmessage, htype, hresolution⟩
    apply bind_eq_ok_iff.mpr
    refine ⟨message, hmessage, bind_eq_ok_iff.mpr ⟨envelope.resolution, hresolution, ?_⟩⟩
    apply bind_eq_ok_iff.mpr
    refine ⟨envelope.order, hdecode, ?_⟩
    rw [pure_eq_ok_iff, htype, ← hsolver, ← hkey]

theorem decode_orderBytes (h : decode srcNid connSn msg = .ok envelope) :
    Entity.decode SwapOrder envelope.resolution.orderBytes = .ok envelope.order := by
  obtain ⟨-, -, hdecode, -⟩ := decode_eq_ok_iff.mp h
  exact hdecode

/-- The carried bytes are those of the order with what was left unread of them. -/
theorem orderBytes_eq_encodeWith (h : decode srcNid connSn msg = .ok envelope) :
    envelope.resolution.orderBytes =
      Entity.encodeWith envelope.order (Rlp.unread envelope.resolution.orderBytes) := by
  exact Entity.eq_encodeWith_unread (decode_orderBytes h)

theorem orderBytes_eq_encode_iff (h : decode srcNid connSn msg = .ok envelope) :
    envelope.resolution.orderBytes = Entity.encode envelope.order ↔
      Rlp.unread envelope.resolution.orderBytes = [] := by
  rw [eq_comm]
  exact Entity.encode_eq_iff_of_decode (decode_orderBytes h)

/-- A message is delivered whenever the bytes of its order are accepted. -/
theorem decode_message (resolution : Resolution) {order : SwapOrder}
    (horder : Entity.decode SwapOrder resolution.orderBytes = .ok order)
    (hlt : (Entity.encode resolution.message).length < Rlp.sizeLimit) :
    decode srcNid connSn (Entity.encode resolution.message) =
      .ok ⟨⟨srcNid, connSn⟩, resolution.messageType, order, resolution.solver?, resolution⟩ := by
  have hresolution := resolution.resolution_message hlt
  have htype : resolution.message.messageType = resolution.messageType := by
    cases resolution <;> rfl
  exact decode_eq_ok_iff.mpr
    ⟨rfl, rfl, horder, resolution.message, Entity.decode_encode hlt, htype, hresolution⟩

theorem decode_cancel {cancel : OrderCancel} {order : SwapOrder}
    (horder : Entity.decode SwapOrder cancel.orderBytes = .ok order)
    (hlt : (Entity.encode (OrderMessage.cancel cancel)).length < Rlp.sizeLimit) :
    decode srcNid connSn (Entity.encode (OrderMessage.cancel cancel)) =
      .ok ⟨⟨srcNid, connSn⟩, .cancel, order, none, .cancel cancel⟩ :=
  decode_message (.cancel cancel) horder hlt

/-- What is said about an order by its canonical bytes is delivered with that order. -/
theorem decode_message_of_eq_encode (resolution : Resolution) {order : SwapOrder}
    (horder : resolution.orderBytes = Entity.encode order)
    (hlt : (Entity.encode resolution.message).length < Rlp.sizeLimit) :
    decode srcNid connSn (Entity.encode resolution.message) =
      .ok ⟨⟨srcNid, connSn⟩, resolution.messageType, order, resolution.solver?, resolution⟩ := by
  have hbytes := Nat.lt_of_le_of_lt resolution.length_orderBytes_le hlt
  rw [horder] at hbytes
  have hdecode : Entity.decode SwapOrder resolution.orderBytes = .ok order := by
    rw [horder]
    exact Entity.decode_encode hbytes
  exact decode_message resolution hdecode hlt

/-- A message whose payload is not what its tag says is refused for the fault of the payload. -/
theorem decode_of_resolution_eq_error {message : OrderMessage} {e : EncodingError}
    (hresolution : message.resolution = .error e)
    (hlt : (Entity.encode message).length < Rlp.sizeLimit) :
    decode srcNid connSn (Entity.encode message) = .error e := by
  rw [decode, Entity.decode_encode hlt]
  change message.resolution >>= _ = _
  rw [hresolution]
  rfl

end Envelope

/-- The bytes of the message that confirms that an order was filled. -/
def SwapOrder.fillMessage (order : SwapOrder) (solver : String) : Bytes :=
  Entity.encode (OrderMessage.fill (.forOrder order solver))

/-- A confirmed fill is delivered with its order and its solver. -/
theorem Envelope.decode_fillMessage {srcNid : String} {connSn : Word128} {order : SwapOrder}
    {solver : String} (hlt : (order.fillMessage solver).length < Rlp.sizeLimit) :
    decode srcNid connSn (order.fillMessage solver) =
      .ok ⟨⟨srcNid, connSn⟩, .fill, order, some solver, .fill (.forOrder order solver)⟩ :=
  decode_message_of_eq_encode (.fill (.forOrder order solver)) rfl hlt

end CrossSwap
