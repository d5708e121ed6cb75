import CrossSwap.Proofs.Order.Fee

/-!
# Fees of larger and of divided amounts

Nobody pays less by settling more or at a higher rate.  An amount that is settled in parts pays at
most as much as in one, and what the parts save is less than one unit for each part.
-/

namespace CrossSwap

section Exact

variable {rate : Nat}

theorem sum_exactFee_le (amounts : List Nat) (rate : Nat) :
    (amounts.map (exactFee · rate)).sum ≤ exactFee amounts.sum rate := by
  induction amounts with
  | nil => simp
  | cons amount rest ih =>
      rw [List.map_cons, List.sum_cons, List.sum_cons]
      calc exactFee amount rate + (rest.map (exactFee · rate)).sum ≤
          exactFee amount rate + exactFee rest.sum rate := Nat.add_le_add_left ih _
        _ ≤ exactFee (amount + rest.sum) rate := exactFee_superadditive amount rest.sum rate

/-- Each part behind the first loses at most one unit. -/
theorem exactFee_sum_le (amount : Nat) (rest : List Nat) (rate : Nat) :
    exactFee (amount :: rest).sum rate ≤
      ((amount :: rest).map (exactFee · rate)).sum + rest.length := by
  induction rest generalizing amount with
  | nil => simp
  | cons next rest ih =>
      have hstep := exactFee_add_le_succ amount (next :: rest).sum rate
      have hrest := ih next
      simp only [List.map_cons, List.sum_cons, List.length_cons] at hstep hrest ⊢
      omega

end Exact

variable {rate : Word64} {amount amount' : Word128} {split split' : FeeSplit}

theorem FeeSplit.IsExact.le_of_amount_le (hrate : rate.toNat ≤ feeDenominator)
    (h : split.IsExact amount rate) (h' : split'.IsExact amount' rate) (hle : amount ≤ amount') :
    split.fee ≤ split'.fee ∧ split.payout ≤ split'.payout := by
  have hamount : amount.toNat ≤ amount'.toNat := hle
  obtain ⟨more, hmore⟩ := Nat.exists_eq_add_of_le hamount
  have hfee : exactFee amount.toNat rate.toNat ≤ exactFee amount'.toNat rate.toNat :=
    exactFee_le_of_le hamount (Nat.le_refl _)
  have hgrowth : exactFee amount'.toNat rate.toNat ≤ exactFee amount.toNat rate.toNat + more := by
    rw [hmore]
    exact exactFee_add_le hrate more
  rw [← h.toNat_fee, ← h'.toNat_fee] at hfee hgrowth
  have hsum := h.fee_add_payout
  have hsum' := h'.fee_add_payout
  refine ⟨hfee, ?_⟩
  change split.payout.toNat ≤ split'.payout.toNat
  omega

theorem FeeSplit.IsExact.le_of_rate_le {lower : Word64} (h : split.IsExact amount lower)
    (h' : split'.IsExact amount rate) (hle : lower ≤ rate) :
    split.fee ≤ split'.fee ∧ split'.payout ≤ split.payout := by
  have hfee : exactFee amount.toNat lower.toNat ≤ exactFee amount.toNat rate.toNat :=
    exactFee_le_of_le (Nat.le_refl _) hle
  rw [← h.toNat_fee, ← h'.toNat_fee] at hfee
  have hsum := h.fee_add_payout
  have hsum' := h'.fee_add_payout
  refine ⟨hfee, ?_⟩
  change split'.payout.toNat ≤ split.payout.toNat
  omega

theorem exists_fee (amount : Word128) (hrate : rate.toNat ≤ feeDenominator) :
    ∃ taken, fee amount rate = .ok taken ∧ taken.toNat = exactFee amount.toNat rate.toNat := by
  obtain ⟨split, hsplit, hexact⟩ := exists_feeSplit amount hrate
  exact ⟨split.fee, fee_of_feeSplit hsplit, hexact.toNat_fee⟩

theorem exists_mapM_fee (amounts : List Word128) (hrate : rate.toNat ≤ feeDenominator) :
    ∃ fees, amounts.mapM (fee · rate) = .ok fees ∧
      fees.map BitVec.toNat = (amounts.map BitVec.toNat).map (exactFee · rate.toNat) := by
  induction amounts with
  | nil => exact ⟨[], rfl, rfl⟩
  | cons amount rest ih =>
      obtain ⟨taken, htaken, hexact⟩ := exists_fee amount hrate
      obtain ⟨fees, hfees, hrest⟩ := ih
      refine ⟨taken :: fees, ?_, ?_⟩
      · rw [List.mapM_cons, htaken, hfees]
        rfl
      · simp only [List.map_cons, hexact, hrest]

/-- Fee and payout grow with the amount; a higher rate takes more and leaves less; and parts whose
sum is a word pay at most the fee of the sum and less by at most one unit for each part but one. -/
theorem fees_monotone_and_divided (rate : Word64) (hrate : rate.toNat ≤ 10000) :
    (∀ amount amount' : Word128, amount ≤ amount' →
      ∃ taken taken' left left', fee amount rate = .ok taken ∧ fee amount' rate = .ok taken' ∧
        payout amount rate = .ok left ∧ payout amount' rate = .ok left' ∧
          taken ≤ taken' ∧ left ≤ left') ∧
      (∀ (amount : Word128) (lower : Word64), lower ≤ rate →
        ∃ taken taken' left left', fee amount lower = .ok taken ∧ fee amount rate = .ok taken' ∧
          payout amount lower = .ok left ∧ payout amount rate = .ok left' ∧
            taken ≤ taken' ∧ left' ≤ left) ∧
      ∀ (amounts : List Word128) (total : Word128), amounts ≠ [] →
        (amounts.map BitVec.toNat).sum = total.toNat →
          ∃ fees taken, amounts.mapM (fee · rate) = .ok fees ∧ fee total rate = .ok taken ∧
            (fees.map BitVec.toNat).sum ≤ taken.toNat ∧
              taken.toNat ≤ (fees.map BitVec.toNat).sum + (amounts.length - 1) := by
  refine ⟨?_, ?_, ?_⟩
  · intro amount amount' hle
    obtain ⟨split, hsplit, hexact⟩ := exists_feeSplit amount hrate
    obtain ⟨split', hsplit', hexact'⟩ := exists_feeSplit amount' hrate
    obtain ⟨hfee, hpayout⟩ := hexact.le_of_amount_le hrate hexact' hle
    exact ⟨_, _, _, _, fee_of_feeSplit hsplit, fee_of_feeSplit hsplit', payout_of_feeSplit hsplit,
      payout_of_feeSplit hsplit', hfee, hpayout⟩
  · intro amount lower hle
    have hlower : lower.toNat ≤ feeDenominator := Nat.le_trans hle hrate
    obtain ⟨split, hsplit, hexact⟩ := exists_feeSplit amount hlower
    obtain ⟨split', hsplit', hexact'⟩ := exists_feeSplit amount hrate
    obtain ⟨hfee, hpayout⟩ := hexact.le_of_rate_le hexact' hle
    exact ⟨_, _, _, _, fee_of_feeSplit hsplit, fee_of_feeSplit hsplit', payout_of_feeSplit hsplit,
      payout_of_feeSplit hsplit', hfee, hpayout⟩
  · intro amounts total hne hsum
    obtain ⟨fees, hfees, hexact⟩ := exists_mapM_fee amounts hrate
    obtain ⟨taken, htaken, htotal⟩ := exists_fee total hrate
    refine ⟨fees, taken, hfees, htaken, ?_, ?_⟩
    · rw [hexact, htotal, ← hsum]
      exact sum_exactFee_le _ _
    · rw [hexact, htotal, ← hsum]
      cases amounts with
      | nil => exact absurd rfl hne
      | cons amount rest =>
          have hloss := exactFee_sum_le amount.toNat (rest.map BitVec.toNat) rate.toNat
          rw [List.length_map] at hloss
          exact hloss

/-- At one basis point three parts of 9999 units pay nothing and their sum pays two, which meets the
bound. -/
theorem fees_monotone_and_divided_one_point :
    (fee 9999 1 = .ok 0 ∧ fee 10000 1 = .ok 1 ∧ payout 9999 1 = .ok 9999 ∧
      payout 10000 1 = .ok 9999 ∧ (0 : Word128) ≤ 1 ∧ (9999 : Word128) ≤ 9999) ∧
      (fee 10000 0 = .ok 0 ∧ fee 10000 1 = .ok 1 ∧ payout 10000 0 = .ok 10000 ∧
        payout 10000 1 = .ok 9999 ∧ (0 : Word128) ≤ 1 ∧ (9999 : Word128) ≤ 10000) ∧
      [9999, 9999, 9999].mapM (fee · 1) = .ok [0, 0, 0] ∧ fee 29997 1 = .ok 2 ∧
        (([0, 0, 0] : List Word128).map BitVec.toNat).sum ≤ (2 : Word128).toNat ∧
          (2 : Word128).toNat ≤ (([0, 0, 0] : List Word128).map BitVec.toNat).sum + 2 := by
  obtain ⟨hamount, hrate, hdivided⟩ := fees_monotone_and_divided 1 (by decide)
  obtain ⟨_, _, _, _, hfee, hfee', hpayout, hpayout', hgrows⟩ := hamount 9999 10000 (by decide)
  obtain ⟨_, _, _, _, hlower, hhigher, hmore, hless, hrises⟩ := hrate 10000 0 (by decide)
  obtain ⟨_, _, hparts, hwhole, hbounds⟩ :=
    hdivided [9999, 9999, 9999] 29997 (by decide) (by decide)
  -- Each of the computations gives its value, which takes the place of the one that exists.
  cases hfee
  cases hfee'
  cases hpayout
  cases hpayout'
  cases hlower
  cases hhigher
  cases hmore
  cases hless
  cases hparts
  cases hwhole
  exact ⟨⟨rfl, rfl, rfl, rfl, hgrows⟩, ⟨rfl, rfl, rfl, rfl, hrises⟩, rfl, rfl, hbounds⟩

end CrossSwap
