import CrossSwap.Proofs.Canonical.Decode
import CrossSwap.Relay.Message

/-!
# The entities of the relay

Orders, fills, cancellations and messages are lawful entities.  For each of them encoding is
undone by decoding, and accepted bytes are canonical exactly when nothing of their payload was left
unread.
-/

namespace CrossSwap

open Rlp FieldReader

instance : LawfulEntity SwapOrder where
  exists_contents order :=
    ⟨[Bytes.minimal order.id.toNat, Text.toBytes order.emitter, Text.toBytes order.srcNid,
      Text.toBytes order.dstNid, Text.toBytes order.creator,
      Text.toBytes order.destinationAddress, Text.toBytes order.token,
      Bytes.minimal order.amount.toNat, Text.toBytes order.toToken,
      Bytes.minimal order.toAmount.toNat, order.data], rfl⟩
  length_items _ := rfl
  decodes := by
    intro payload tail items hs hlt hlength
    match items, hlength with
    | [i₀, i₁, i₂, i₃, i₄, i₅, i₆, i₇, i₈, i₉, i₁₀], _ =>
      have hread :=
        (Decodes.word (i := 0) (w := 128) rfl hs hlt rfl "id").bind fun id =>
        (Decodes.text (i := 1) hs hlt rfl "emitter").bind fun emitter =>
        (Decodes.text (i := 2) hs hlt rfl "src_nid").bind fun srcNid =>
        (Decodes.text (i := 3) hs hlt rfl "dst_nid").bind fun dstNid =>
        (Decodes.text (i := 4) hs hlt rfl "creator").bind fun creator =>
        (Decodes.text (i := 5) hs hlt rfl "destination_address").bind fun destinationAddress =>
        (Decodes.text (i := 6) hs hlt rfl "token").bind fun token =>
        (Decodes.word (i := 7) (w := 128) rfl hs hlt rfl "amount").bind fun amount =>
        (Decodes.text (i := 8) hs hlt rfl "to_token").bind fun toToken =>
        (Decodes.word (i := 9) (w := 128) rfl hs hlt rfl "to_amount").bind fun toAmount =>
        (Decodes.bytes (i := 10) hs hlt rfl "data").bind fun data =>
        Decodes.pure (SwapOrder.mk id emitter srcNid dstNid creator destinationAddress token amount
          toToken toAmount data)
      refine Decodes.congr hread fun order => ?_
      constructor
      · rintro ⟨id, rfl, emitter, rfl, srcNid, rfl, dstNid, rfl, creator, rfl, destination, rfl,
          token, rfl, amount, rfl, toToken, rfl, toAmount, rfl, data, rfl, rfl⟩
        rfl
      · intro hitems
        cases hitems
        exact ⟨_, rfl, _, rfl, _, rfl, _, rfl, _, rfl, _, rfl, _, rfl, _, rfl, _, rfl, _, rfl, _,
          rfl, rfl⟩

instance : LawfulEntity OrderFill where
  exists_contents fill :=
    ⟨[Bytes.minimal fill.id.toNat, fill.orderBytes, Text.toBytes fill.solver], rfl⟩
  length_items _ := rfl
  decodes := by
    intro payload tail items hs hlt hlength
    match items, hlength with
    | [i₀, i₁, i₂], _ =>
      have hread :=
        (Decodes.word (i := 0) (w := 128) rfl hs hlt rfl "id").bind fun id =>
        (Decodes.bytes (i := 1) hs hlt rfl "order_bytes").bind fun orderBytes =>
        (Decodes.text (i := 2) hs hlt rfl "solver").bind fun solver =>
        Decodes.pure (OrderFill.mk id orderBytes solver)
      refine Decodes.congr hread fun fill => ?_
      constructor
      · rintro ⟨id, rfl, orderBytes, rfl, solver, rfl, rfl⟩
        rfl
      · intro hitems
        cases hitems
        exact ⟨_, rfl, _, rfl, _, rfl, rfl⟩

instance : LawfulEntity OrderCancel where
  exists_contents cancel := ⟨[cancel.orderBytes], rfl⟩
  length_items _ := rfl
  decodes := by
    intro payload tail items hs hlt hlength
    match items, hlength with
    | [i₀], _ =>
      have hread :=
        (Decodes.bytes (i := 0) hs hlt rfl "order_bytes").bind fun orderBytes =>
        Decodes.pure (OrderCancel.mk orderBytes)
      refine Decodes.congr hread fun cancel => ?_
      constructor
      · rintro ⟨orderBytes, rfl, rfl⟩
        rfl
      · intro hitems
        cases hitems
        exact ⟨_, rfl, rfl⟩

theorem MessageType.ofCode_eq_ok_iff {n : Nat} {messageType : MessageType} :
    MessageType.ofCode n = .ok messageType ↔ n = messageType.code := by
  constructor
  · intro h
    match n with
    | 1 => cases h; rfl
    | 2 => cases h; rfl
    | 0 => cases h
    | n + 3 => cases h
  · rintro rfl
    cases messageType <;> rfl

instance : LawfulEntity OrderMessage where
  exists_contents message := ⟨[Bytes.minimal message.messageType.code, message.payload], rfl⟩
  length_items _ := rfl
  decodes := by
    intro payload tail items hs hlt hlength
    match items, hlength with
    | [i₀, i₁], _ =>
      have hread :=
        (Decodes.word (i := 0) (w := 32) rfl hs hlt rfl "message_type").bind fun code =>
        (Decodes.lift (MessageType.ofCode code.toNat)).bind fun messageType =>
        (Decodes.bytes (i := 1) hs hlt rfl "payload").bind fun payload =>
        Decodes.pure (OrderMessage.mk messageType payload)
      refine Decodes.congr hread fun message => ?_
      constructor
      · rintro ⟨code, rfl, messageType, htype, payload, rfl, rfl⟩
        rw [MessageType.ofCode_eq_ok_iff.mp htype]
        rfl
      · intro hitems
        cases hitems
        refine ⟨BitVec.ofNat 32 message.messageType.code, ?_, message.messageType, ?_, _, rfl, rfl⟩
        · cases message.messageType <;> rfl
        · cases message.messageType <;> rfl

/-! ## The four kinds -/

inductive EntityKind where
  | swapOrder
  | orderFill
  | orderCancel
  | orderMessage
  deriving DecidableEq, Repr

namespace EntityKind

/-- The entities of a kind. -/
def Carrier : EntityKind → Type
  | swapOrder => SwapOrder
  | orderFill => OrderFill
  | orderCancel => OrderCancel
  | orderMessage => OrderMessage

instance : (kind : EntityKind) → Entity kind.Carrier
  | swapOrder => inferInstanceAs (Entity SwapOrder)
  | orderFill => inferInstanceAs (Entity OrderFill)
  | orderCancel => inferInstanceAs (Entity OrderCancel)
  | orderMessage => inferInstanceAs (Entity OrderMessage)

instance : (kind : EntityKind) → LawfulEntity kind.Carrier
  | swapOrder => inferInstanceAs (LawfulEntity SwapOrder)
  | orderFill => inferInstanceAs (LawfulEntity OrderFill)
  | orderCancel => inferInstanceAs (LawfulEntity OrderCancel)
  | orderMessage => inferInstanceAs (LawfulEntity OrderMessage)

end EntityKind

/-- The bytes that are accepted as an entity are one list: its header, the fields as the entity is
written with them, and behind them nothing or bytes whose first item has no header that can be read
or announces more bytes than there are. -/
theorem decode_language (kind : EntityKind) (bs : Bytes) (a : kind.Carrier) :
    Entity.decode kind.Carrier bs = .ok a ↔
      ∃ tail,
        (tail = [] ∨ (∀ h, ¬Header.Opens tail h) ∨
          ∃ h, Header.Opens tail h ∧ tail.length < h.total) ∧
        ((Entity.items a).flatten ++ tail).length < Nat.pow 2 64 ∧
        bs = listHeader ((Entity.items a).flatten ++ tail).length ++
          ((Entity.items a).flatten ++ tail) := by
  rw [Entity.decode_eq_ok_iff]
  simp only [unreadable_iff]
  rfl

/-- Accepted bytes are the canonical ones exactly when nothing inside the list was left unread, and
two accepted byte strings of one entity differ in what was left unread. -/
theorem accepted_canonical_iff (kind : EntityKind) (bs : Bytes) (a : kind.Carrier)
    (h : Entity.decode kind.Carrier bs = .ok a) :
    (Entity.encode a = bs ↔ unread bs = []) ∧
      ∀ bs', Entity.decode kind.Carrier bs' = .ok a → (bs' = bs ↔ unread bs' = unread bs) := by
  refine ⟨Entity.encode_eq_iff_of_decode h, ?_⟩
  intro bs' h'
  constructor
  · rintro rfl
    rfl
  · intro hunread
    rw [Entity.eq_encodeWith_unread h, Entity.eq_encodeWith_unread h', hunread]

theorem accepted_canonical_iff_orderFill :
    Entity.decode OrderFill [0xC8, 7, 0x83, 1, 2, 3, 0x82, 0xC3, 0xBC] = .ok ⟨7, [1, 2, 3], "ü"⟩ ∧
      Entity.decode OrderFill [0xC9, 7, 0x83, 1, 2, 3, 0x82, 0xC3, 0xBC, 0xB8] =
        .ok ⟨7, [1, 2, 3], "ü"⟩ ∧
      Entity.encode (⟨7, [1, 2, 3], "ü"⟩ : OrderFill) =
        [0xC8, 7, 0x83, 1, 2, 3, 0x82, 0xC3, 0xBC] ∧
      unread [0xC9, 7, 0x83, 1, 2, 3, 0x82, 0xC3, 0xBC, 0xB8] ≠
        unread [0xC8, 7, 0x83, 1, 2, 3, 0x82, 0xC3, 0xBC] := by
  obtain ⟨hcanonical, hunique⟩ :=
    accepted_canonical_iff .orderFill [0xC8, 7, 0x83, 1, 2, 3, 0x82, 0xC3, 0xBC]
      (⟨7, [1, 2, 3], "ü"⟩ : OrderFill) rfl
  refine ⟨rfl, rfl, hcanonical.mpr (by decide), ?_⟩
  rw [ne_eq, ← hunique [0xC9, 7, 0x83, 1, 2, 3, 0x82, 0xC3, 0xBC, 0xB8] rfl]
  decide

/-- A header that cannot be read, behind the last field, is not noticed. -/
theorem decode_not_injective :
    Entity.decode OrderCancel [0xC2, 0x80, 0xB8] = .ok ⟨[]⟩ ∧
      Entity.decode OrderCancel [0xC1, 0x80] = .ok ⟨[]⟩ ∧
        Entity.encode (⟨[]⟩ : OrderCancel) ≠ [0xC2, 0x80, 0xB8] := by
  refine ⟨rfl, rfl, by decide⟩

/-- Every entity is read back from its bytes, and no other has the same bytes. -/
theorem decode_encode_of_lt (kind : EntityKind) (a : kind.Carrier)
    (hlt : (Entity.encode a).length < Nat.pow 2 64) :
    Entity.decode kind.Carrier (Entity.encode a) = .ok a ∧
      ∀ b : kind.Carrier, Entity.encode b = Entity.encode a → b = a := by
  have hdecode := Entity.decode_encode hlt
  refine ⟨hdecode, ?_⟩
  intro b hb
  have hdecode' := Entity.decode_encode (hb ▸ hlt : (Entity.encode b).length < sizeLimit)
  rw [hb, hdecode] at hdecode'
  exact (Except.ok.inj hdecode').symm

theorem decode_encode_of_lt_long_data :
    ∃ order : SwapOrder, order.data.length = 60 ∧
      (Entity.encode order).length < Nat.pow 2 64 ∧
        Entity.decode SwapOrder (Entity.encode order) = .ok order := by
  let order : SwapOrder :=
    { id := 1000, emitter := "", srcNid := "a", dstNid := "ä", creator := "b",
      destinationAddress := "c", token := "d", amount := BitVec.allOnes 128, toToken := "e",
      toAmount := 128, data := List.replicate 60 0xAA }
  have hlt : (Entity.encode order).length < Nat.pow 2 64 := by decide
  exact ⟨order, rfl, hlt, (decode_encode_of_lt .swapOrder order hlt).1⟩

end CrossSwap
