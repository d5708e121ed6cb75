import CrossSwap.Proofs.Ledger.Derivation
import CrossSwap.Proofs.Relay.Envelope
import CrossSwap.Proofs.Resolve.Accounts
import CrossSwap.Proofs.Resolve.Request
import CrossSwap.Proofs.Text.Base58

/-!
# Two ways to release an escrow

A fill on the network of origin releases the escrow in the same call; a fill on another network
releases it when its confirmation is delivered.  Both list the same accounts.
-/

namespace CrossSwap

open Derived

theorem SwapOrder.isSameNetwork_iff {order : SwapOrder} :
    order.isSameNetwork = true ↔ order.srcNid = order.dstNid :=
  beq_iff_eq

namespace Program

open AccountEntry

variable {program : Program} {filler solver : Address} {order : SwapOrder} {solverAddress : String}
  {snapshot : Snapshot} {connSn : Word128} {filled : Resolved} {released : List AccountEntry}

theorem wellSized_receipt_of_release (h : program.release order solver = .ok released)
    (connSn : Word128) : WellSized (Purpose.receipt order.dstNid connSn).seeds := by
  -- The one seed of a receipt that may be too long is a seed of the escrow as well.
  obtain ⟨creator, -, asset, -, config, -, escrow, hescrow, -⟩ := release_eq_ok_iff.mp h
  have hsized := Purpose.wellSized_order_iff.mp (wellSized_of_account hescrow)
  exact Purpose.wellSized_receipt_iff.mpr hsized

/-- A confirmed fill whose escrow can be released is delivered, and four accounts stand before
those of the release. -/
theorem exists_resolve_fillMessage (hreleased : program.release order solver = .ok released)
    (hsolver : Address.ofText? solverAddress = some solver)
    (hlt : (order.fillMessage solverAddress).length < Rlp.sizeLimit)
    (hviable : Viable program.address (Purpose.receipt order.dstNid connSn).seeds)
    (snapshot : Snapshot) :
    ∃ delivered opening, program.resolve (.receiveMessage snapshot.admin order.dstNid connSn
        (order.fillMessage solverAddress)) snapshot = .ok delivered ∧
      opening.length = 4 ∧ delivered.accounts = opening ++ released := by
  obtain ⟨creator, -, asset, -, config, hconfig, -⟩ := release_eq_ok_iff.mp hreleased
  obtain ⟨receipt, hreceipt⟩ :=
    exists_account (wellSized_receipt_of_release hreleased connSn) hviable
  let envelope : Envelope :=
    ⟨⟨order.dstNid, connSn⟩, .fill, order, some solverAddress,
      .fill (.forOrder order solverAddress)⟩
  have hsettled : program.settleAccounts config envelope = .ok released := by
    have hfill : envelope.resolution = .fill (.forOrder order solverAddress) := rfl
    apply (settleAccounts_fill_eq_ok_iff hfill).mpr
    exact ⟨rfl, solver, parseAddress_eq_ok_iff.mpr hsolver, hreleased⟩
  let opening : List AccountEntry :=
    [.signer snapshot.admin, readonly Address.systemProgram, readonly config, writable receipt]
  let delivered : Resolved :=
    { instruction := .recvMessage order.dstNid connSn (order.fillMessage solverAddress)
      accounts := opening ++ released
      settlement := none }
  have hresolve : program.resolveEnvelope snapshot.admin snapshot envelope
      (order.fillMessage solverAddress) = .ok delivered := by
    apply resolveEnvelope_eq_ok_iff.mpr
    exact ⟨rfl, config, hconfig, receipt, hreceipt, released, hsettled, rfl⟩
  refine ⟨delivered, opening, ?_, rfl, rfl⟩
  apply resolve_receiveMessage_eq_ok_iff.mpr
  exact ⟨envelope, Envelope.decode_fillMessage hlt, hresolve⟩

/-- Twelve accounts pay the destination; on the network of origin those of the release follow. -/
theorem exists_accounts_of_fill
    (h : program.resolve (.fill filler order solverAddress) snapshot = .ok filled) :
    ∃ opening released, opening.length = 12 ∧ filled.accounts = opening ++ released ∧
      program.ownRelease order solverAddress = .ok released := by
  obtain ⟨-, -, -, destination, -, asset, -, settlement, -, config, -, finished, -, payment,
    hpayment, released, hreleased, rfl⟩ := resolveFill_eq_ok_iff.mp h
  refine ⟨_, released, ?_, rfl, hreleased⟩
  simp [length_paymentAccounts hpayment]

/-- A fill on the network of origin lists the accounts of the release as the delivery of its
confirmation does, and a fill elsewhere lists none of them. -/
theorem fill_release_eq_delivered (program : Program) (filler : Address) (order : SwapOrder)
    (solverAddress : String) (snapshot : Snapshot) (filled : Resolved)
    (hfill : program.resolve (.fill filler order solverAddress) snapshot = .ok filled) :
    (order.srcNid = order.dstNid →
      filled.accounts.length = 22 ∧
      (∀ entry ∈ filled.accounts.drop 12, entry.isWritable = true ∧ entry.isSigner = false) ∧
      ∀ (later : Snapshot) (connSn : Word128),
        (order.fillMessage solverAddress).length < Nat.pow 2 64 →
        Viable program.address (Purpose.receipt order.dstNid connSn).seeds →
          ∃ delivered, program.resolve (.receiveMessage later.admin order.dstNid connSn
              (order.fillMessage solverAddress)) later = .ok delivered ∧
            delivered.accounts.length = 14 ∧
            filled.accounts.drop 12 = delivered.accounts.drop 4) ∧
      (order.srcNid ≠ order.dstNid → filled.accounts.length = 12) := by
  obtain ⟨opening, released, hopening, haccounts, hown⟩ := exists_accounts_of_fill hfill
  rw [ownRelease_eq_ok_iff] at hown
  constructor
  · intro hsame
    rw [if_pos (SwapOrder.isSameNetwork_iff.mpr hsame)] at hown
    obtain ⟨solver, hsolver, hreleased⟩ := hown
    obtain ⟨addresses, hlength, hentries⟩ := exists_addresses_of_release hreleased
    have htail : filled.accounts.drop 12 = released := by
      rw [haccounts, List.drop_left' hopening]
    have hten : released.length = 10 := by rw [hentries, List.length_map, hlength]
    refine ⟨?_, ?_, ?_⟩
    · rw [haccounts, List.length_append, hopening, hten]
    · intro entry hentry
      rw [htail, hentries] at hentry
      obtain ⟨address, -, rfl⟩ := List.mem_map.mp hentry
      exact ⟨rfl, rfl⟩
    · intro later connSn hlt hviable
      obtain ⟨delivered, first, hresolve, hfirst, hdelivered⟩ :=
        exists_resolve_fillMessage hreleased (parseAddress_eq_ok_iff.mp hsolver) hlt hviable later
      refine ⟨delivered, hresolve, ?_, ?_⟩
      · rw [hdelivered, List.length_append, hfirst, hten]
      · rw [htail, hdelivered, List.drop_left' hfirst]
  · intro hother
    rw [if_neg (fun hsame => hother (SwapOrder.isSameNetwork_iff.mp hsame))] at hown
    rw [haccounts, hown, List.append_nil, hopening]

theorem fill_release_eq_delivered_token :
    let program : Program := ⟨Address.associatedTokenProgram⟩
    let order : SwapOrder :=
      { id := 1, emitter := "", srcNid := "a", dstNid := "a"
        creator := "11111111111111111111111111111112"
        destinationAddress := "11111111111111111111111111111113"
        token := "TokenkegQfeZyiNwAJbNbGKPFXCWuBvf9Ss623VQ5DA", amount := 5
        toToken := nativeAsset, toAmount := 7, data := [] }
    let solver := "11111111111111111111111111111114"
    let snapshot : Snapshot := ⟨Address.systemProgram, Address.tokenProgram, "a", 30, 0, 0⟩
    ∃ filled delivered,
      program.resolve (.fill Address.tokenProgram order solver) snapshot = .ok filled ∧
        program.resolve (.receiveMessage snapshot.admin "a" 9 (order.fillMessage solver)) snapshot =
          .ok delivered ∧
        filled.accounts.length = 22 ∧ delivered.accounts.length = 14 ∧
        filled.accounts.drop 12 = delivered.accounts.drop 4 := by
  intro program order solver snapshot
  have hok : (program.resolve (.fill Address.tokenProgram order solver) snapshot).isOk = true := by
    decide +kernel
  obtain ⟨filled, hfill⟩ := exists_eq_ok_of_isOk hok
  obtain ⟨hsame, -⟩ :=
    fill_release_eq_delivered program Address.tokenProgram order solver snapshot filled hfill
  obtain ⟨hlength, -, hrelayed⟩ := hsame rfl
  have hviable : Viable program.address (Purpose.receipt "a" 9).seeds := by decide +kernel
  obtain ⟨delivered, hdelivered, hlength', haccounts⟩ :=
    hrelayed snapshot 9 (by decide +kernel) hviable
  exact ⟨filled, delivered, hfill, hdelivered, hlength, hlength', haccounts⟩

end Program

end CrossSwap
