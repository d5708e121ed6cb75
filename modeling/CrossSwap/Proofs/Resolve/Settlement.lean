import CrossSwap.Proofs.Order.Fee
import CrossSwap.Proofs.Resolve.Request

/-!
# What a fill settles

A fill carries the fee and the payout of the amount that its order asks for, at the rate of the
settings.
-/

namespace CrossSwap

namespace Program

theorem settlement_of_fill {program : Program} {filler : Address} {order : SwapOrder}
    {solverAddress : String} {snapshot : Snapshot} {filled : Resolved}
    (h : program.resolve (.fill filler order solverAddress) snapshot = .ok filled) :
    ∃ split, FeeSplit.of order.toAmount snapshot.protocolFee = .ok split ∧
      filled.settlement = some split := by
  obtain ⟨-, -, -, destination, -, asset, -, split, hsplit, config, -, finished, -, payment, -,
    released, -, rfl⟩ := resolveFill_eq_ok_iff.mp h
  exact ⟨split, hsplit, rfl⟩

end Program

/-- A settlement is refused exactly for a rate above the whole.  At any other rate all of its steps
stay in their words, the fee is the floor of the exact product and at most the amount, the payout is
the rest, and fills carry it. -/
theorem settlement_exact (amount : Word128) (rate : Word64) :
    (∀ e, fee amount rate = .error e ↔ 10000 < rate.toNat ∧ e = .invalidProtocolFee rate) ∧
      (∀ e, payout amount rate = .error e ↔ 10000 < rate.toNat ∧ e = .invalidProtocolFee rate) ∧
      (∀ e, FeeSplit.of amount rate = .error e ↔
        10000 < rate.toNat ∧ e = .invalidProtocolFee rate) ∧
      (rate.toNat ≤ 10000 → ∃ split, FeeSplit.of amount rate = .ok split ∧
        fee amount rate = .ok split.fee ∧ payout amount rate = .ok split.payout ∧
        FeeSplit.checked? amount rate = some split ∧
        feeSteps .enforced amount rate = some split.fee ∧
        payoutSteps .enforced amount rate = some split.payout ∧
        amount.toNat / 10000 * rate.toNat < 2 ^ 128 ∧
        amount.toNat % 10000 * rate.toNat < 2 ^ 128 ∧
        amount.toNat / 10000 * rate.toNat + amount.toNat % 10000 * rate.toNat / 10000 < 2 ^ 128 ∧
        split.fee.toNat = amount.toNat * rate.toNat / 10000 ∧
        split.fee.toNat ≤ amount.toNat ∧
        split.fee.toNat + split.payout.toNat = amount.toNat) ∧
      ∀ (program : Program) (filler : Address) (order : SwapOrder) (solverAddress : String)
        (snapshot : Snapshot) (filled : Resolved),
        program.resolve (.fill filler order solverAddress) snapshot = .ok filled →
        order.toAmount = amount → snapshot.protocolFee = rate →
          ∃ split, filled.settlement = some split ∧ FeeSplit.of amount rate = .ok split ∧
            split.fee.toNat = amount.toNat * rate.toNat / 10000 ∧
            split.fee.toNat + split.payout.toNat = amount.toNat := by
  refine ⟨fun e => fee_eq_error_iff, fun e => ?_, fun e => ?_, ?_, ?_⟩
  · rw [payout_eq_error_iff]
    exact fee_eq_error_iff
  · rw [feeSplit_eq_error_iff]
    exact fee_eq_error_iff
  · intro hrate
    obtain ⟨split, hsplit, hchecked, hexact⟩ := exists_checked amount hrate
    obtain ⟨hfee, hpayout⟩ := steps_of_checked hchecked
    have hsum := hexact.fee_add_payout
    exact ⟨split, hsplit, fee_of_feeSplit hsplit, payout_of_feeSplit hsplit, hchecked, hfee, hpayout,
      multiples_product_lt hrate, remainder_product_lt hrate, pieces_sum_lt hrate,
      hexact.toNat_fee, by omega, hsum⟩
  · rintro program filler order solverAddress snapshot filled hfill rfl rfl
    obtain ⟨split, hsplit, hsettlement⟩ := Program.settlement_of_fill hfill
    obtain ⟨split', hsplit', hexact⟩ :=
      exists_feeSplit order.toAmount (rate_le_of_feeSplit hsplit)
    rw [hsplit, Except.ok.injEq] at hsplit'
    subst hsplit'
    exact ⟨split, hsettlement, hsplit, hexact.toNat_fee, hexact.fee_add_payout⟩

/-- The product of the largest amount and 9999 does not fit a word; the two pieces do. -/
theorem settlement_exact_largest_amount :
    let program : Program := ⟨Address.associatedTokenProgram⟩
    let order : SwapOrder :=
      { id := 1, emitter := "", srcNid := "a", dstNid := "b", creator := ""
        destinationAddress := "11111111111111111111111111111113", token := "", amount := 5
        toToken := nativeAsset, toAmount := BitVec.allOnes 128, data := [] }
    let snapshot : Snapshot := ⟨Address.systemProgram, Address.tokenProgram, "b", 9999, 0, 0⟩
    ∃ filled split,
      program.resolve (.fill Address.tokenProgram order "s") snapshot = .ok filled ∧
        filled.settlement = some split ∧
        FeeSplit.checked? order.toAmount 9999 = some split ∧
        2 ^ 128 ≤ order.toAmount.toNat * 9999 ∧
        order.toAmount.toNat / 10000 * 9999 < 2 ^ 128 ∧
        order.toAmount.toNat % 10000 * 9999 < 2 ^ 128 ∧
        split.fee.toNat = order.toAmount.toNat * 9999 / 10000 ∧
        split.fee.toNat + split.payout.toNat = order.toAmount.toNat := by
  intro program order snapshot
  have hok : (program.resolve (.fill Address.tokenProgram order "s") snapshot).isOk = true := by
    decide +kernel
  obtain ⟨filled, hfill⟩ := exists_eq_ok_of_isOk hok
  obtain ⟨-, -, -, haccepted, hfills⟩ := settlement_exact order.toAmount snapshot.protocolFee
  obtain ⟨split, hsettlement, hsplit, -⟩ :=
    hfills program Address.tokenProgram order "s" snapshot filled hfill rfl rfl
  obtain ⟨split', hsplit', -, -, hchecked, -, -, hmultiples, hrest, -, hfee, -, hsum⟩ :=
    haccepted (by decide)
  rw [hsplit, Except.ok.injEq] at hsplit'
  subst hsplit'
  exact ⟨filled, split, hfill, hsettlement, hchecked, by decide, hmultiples, hrest, hfee, hsum⟩

end CrossSwap
