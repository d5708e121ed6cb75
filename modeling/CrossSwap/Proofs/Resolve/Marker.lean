import CrossSwap.Proofs.Relay.Envelope
import CrossSwap.Proofs.Resolve.Request

/-!
# The mark of a finished order

A fill, a cancellation on one network and a relayed cancellation each name the account that marks
their order as finished.  The relayed one hashes the bytes that it carries, the others encode the
order again.
-/

namespace CrossSwap

namespace Program

variable {program : Program} {order : SwapOrder} {snapshot : Snapshot} {resolved : Resolved}
  {hash : Digest}

/-- A place in a list of accounts holds the mark for a hash. -/
def MarkedAt (program : Program) (hash : Digest) (accounts : List AccountEntry) (place : Nat) :
    Prop :=
  ∃ finished, program.account (.orderFinished hash) = .ok finished ∧
    accounts[place]? = some ⟨finished, true, false⟩

theorem MarkedAt.getElem?_eq {accounts accounts' : List AccountEntry} {place place' : Nat}
    (h : program.MarkedAt hash accounts place) (h' : program.MarkedAt hash accounts' place') :
    accounts[place]? = accounts'[place']? := by
  obtain ⟨finished, hfinished, hplace⟩ := h
  obtain ⟨finished', hfinished', hplace'⟩ := h'
  rw [hfinished, Except.ok.injEq] at hfinished'
  rw [hplace, hplace', hfinished']

theorem markedAt_of_fill {filler : Address} {solverAddress : String}
    (h : program.resolve (.fill filler order solverAddress) snapshot = .ok resolved) :
    program.MarkedAt order.hash resolved.accounts 5 := by
  obtain ⟨-, -, -, destination, -, asset, -, settlement, -, config, -, finished, hfinished,
    payment, -, released, -, rfl⟩ := resolveFill_eq_ok_iff.mp h
  exact ⟨finished, hfinished, rfl⟩

theorem markedAt_of_cancel {signer : Address} (hsame : order.isSameNetwork)
    (h : program.resolve (.cancel signer order) snapshot = .ok resolved) :
    program.MarkedAt order.hash resolved.accounts 4 := by
  obtain ⟨creator, -, -, config, -, escrow, -, mark, hmark, rfl⟩ := resolveCancel_eq_ok_iff.mp h
  rw [cancelMark_eq_ok_iff, if_pos hsame] at hmark
  obtain ⟨-, finished, hfinished, rfl⟩ := hmark
  exact ⟨finished, hfinished, rfl⟩

theorem markedAt_of_receiveMessage {signer : Address} {srcNid : String} {connSn : Word128}
    {msg : Bytes} {envelope : Envelope} {cancel : OrderCancel}
    (henvelope : Envelope.decode srcNid connSn msg = .ok envelope)
    (hcancel : envelope.resolution = .cancel cancel)
    (h : program.resolve (.receiveMessage signer srcNid connSn msg) snapshot = .ok resolved) :
    program.MarkedAt (Keccak.digest cancel.orderBytes) resolved.accounts 5 := by
  obtain ⟨envelope', henvelope', hresolve⟩ := resolve_receiveMessage_eq_ok_iff.mp h
  rw [henvelope, Except.ok.injEq] at henvelope'
  subst henvelope'
  obtain ⟨-, config, -, receipt, -, settled, hsettled, rfl⟩ := resolveEnvelope_eq_ok_iff.mp hresolve
  obtain ⟨-, -, finished, hfinished, rfl⟩ :=
    (settleAccounts_cancel_eq_ok_iff hcancel).mp hsettled
  exact ⟨finished, hfinished, rfl⟩

/-- The mark that a relayed cancellation names is the one that fills and cancellations of the same
order name, as long as the order's bytes have nothing left unread. -/
theorem relayed_cancel_mark (program : Program) (signer : Address) (srcNid : String)
    (connSn : Word128) (msg : Bytes) (snapshot : Snapshot) (resolved : Resolved)
    (envelope : Envelope) (cancel : OrderCancel)
    (hresolve : program.resolve (.receiveMessage signer srcNid connSn msg) snapshot = .ok resolved)
    (henvelope : Envelope.decode srcNid connSn msg = .ok envelope)
    (hcancel : envelope.resolution = .cancel cancel) :
    program.MarkedAt (Keccak.digest cancel.orderBytes) resolved.accounts 5 ∧
      cancel.orderBytes = Entity.encodeWith envelope.order (Rlp.unread cancel.orderBytes) ∧
      (cancel.orderBytes = Entity.encode envelope.order ↔ Rlp.unread cancel.orderBytes = []) ∧
      (Rlp.unread cancel.orderBytes = [] →
        Keccak.digest cancel.orderBytes = envelope.order.hash) ∧
      (∀ filler solverAddress snapshot' filled,
        program.resolve (.fill filler envelope.order solverAddress) snapshot' = .ok filled →
          program.MarkedAt envelope.order.hash filled.accounts 5 ∧
            (Rlp.unread cancel.orderBytes = [] → filled.accounts[5]? = resolved.accounts[5]?)) ∧
      ∀ canceller snapshot' cancelled, envelope.order.isSameNetwork →
        program.resolve (.cancel canceller envelope.order) snapshot' = .ok cancelled →
          program.MarkedAt envelope.order.hash cancelled.accounts 4 ∧
            (Rlp.unread cancel.orderBytes = [] →
              cancelled.accounts[4]? = resolved.accounts[5]?) := by
  have hmark := markedAt_of_receiveMessage henvelope hcancel hresolve
  have hwritten : cancel.orderBytes = Entity.encodeWith envelope.order
      (Rlp.unread cancel.orderBytes) := by
    have h := Envelope.orderBytes_eq_encodeWith henvelope
    rw [hcancel] at h
    exact h
  have hbytes : cancel.orderBytes = Entity.encode envelope.order ↔
      Rlp.unread cancel.orderBytes = [] := by
    have h := Envelope.orderBytes_eq_encode_iff henvelope
    rw [hcancel] at h
    exact h
  have hhash (hunread : Rlp.unread cancel.orderBytes = []) :
      Keccak.digest cancel.orderBytes = envelope.order.hash := by
    rw [SwapOrder.hash, hbytes.mpr hunread]
  refine ⟨hmark, hwritten, hbytes, hhash, ?_, ?_⟩
  · intro filler solverAddress snapshot' filled hfill
    have hfilled := markedAt_of_fill hfill
    refine ⟨hfilled, fun hunread => ?_⟩
    rw [hhash hunread] at hmark
    exact hfilled.getElem?_eq hmark
  · intro canceller snapshot' cancelled hsame hresolve'
    have hcancelled := markedAt_of_cancel hsame hresolve'
    refine ⟨hcancelled, fun hunread => ?_⟩
    rw [hhash hunread] at hmark
    exact hcancelled.getElem?_eq hmark

theorem relayed_cancel_mark_canonical :
    let admin := Address.systemProgram
    let program : Program := ⟨Address.associatedTokenProgram⟩
    let order : SwapOrder :=
      { id := 1, emitter := "", srcNid := "a", dstNid := "b", creator := "", destinationAddress := "",
        token := "", amount := 0, toToken := "", toAmount := 0, data := [] }
    let msg := Entity.encode (OrderMessage.cancel (.forOrder order))
    ∃ resolved, program.resolve (.receiveMessage admin "a" 0 msg)
        ⟨admin, admin, "b", 0, 0, 0⟩ = .ok resolved ∧
      program.MarkedAt order.hash resolved.accounts 5 := by
  intro admin program order msg
  have hok : (program.resolve (.receiveMessage admin "a" 0 msg)
      ⟨admin, admin, "b", 0, 0, 0⟩).isOk = true := by
    decide +kernel
  obtain ⟨resolved, hresolve⟩ := exists_eq_ok_of_isOk hok
  have horder : Entity.decode SwapOrder (Entity.encode order) = .ok order := by
    exact Entity.decode_encode (by decide)
  have henvelope : Envelope.decode "a" 0 msg =
      .ok ⟨⟨"a", 0⟩, .cancel, order, none, .cancel (.forOrder order)⟩ := by
    exact Envelope.decode_cancel horder (by decide)
  obtain ⟨hmark, -, -, hhash, -⟩ :=
    relayed_cancel_mark program admin "a" 0 _ _ resolved _ _ hresolve henvelope rfl
  have hunread : Rlp.unread (Entity.encode order) = [] := by
    exact Entity.unread_encode (by decide)
  rw [hhash hunread] at hmark
  exact ⟨resolved, hresolve, hmark⟩

/-- A relayed cancellation of an order may name another mark than the order's own. -/
theorem relayed_cancel_mark_broken_tail :
    let admin := Address.systemProgram
    let program : Program := ⟨Address.associatedTokenProgram⟩
    let order : SwapOrder :=
      { id := 1, emitter := "", srcNid := "a", dstNid := "b", creator := "", destinationAddress := "",
        token := "", amount := 0, toToken := "", toAmount := 0, data := [] }
    let cancel : OrderCancel := ⟨Entity.encodeWith order [0xB8]⟩
    let msg := Entity.encode (OrderMessage.cancel cancel)
    Envelope.decode "a" 0 msg = .ok ⟨⟨"a", 0⟩, .cancel, order, none, .cancel cancel⟩ ∧
      (∃ resolved, program.resolve (.receiveMessage admin "a" 0 msg)
        ⟨admin, admin, "b", 0, 0, 0⟩ = .ok resolved) ∧
      cancel.orderBytes ≠ Entity.encode order ∧
      Keccak.digest cancel.orderBytes ≠ order.hash := by
  intro admin program order cancel msg
  have horder : Entity.decode SwapOrder cancel.orderBytes = .ok order := by
    exact Entity.decode_eq_ok_iff.mpr ⟨[0xB8], ⟨.tooShort, rfl⟩, by decide, rfl⟩
  have hok : (program.resolve (.receiveMessage admin "a" 0 msg)
      ⟨admin, admin, "b", 0, 0, 0⟩).isOk = true := by
    decide +kernel
  refine ⟨Envelope.decode_cancel horder (by decide), exists_eq_ok_of_isOk hok, by decide, ?_⟩
  decide +kernel

end Program

end CrossSwap
