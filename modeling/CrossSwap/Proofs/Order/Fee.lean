import CrossSwap.Order.Fee
import CrossSwap.Proofs.Outcome
import CrossSwap.Proofs.Range
import Mathlib.Data.Nat.ModEq

/-!
# The fee in exact numbers

The fee is computed in two pieces that add up to the floor of the exact product.  Neither the pieces
nor their sum exceed the amount, so no step leaves its words.
-/

namespace CrossSwap

/-- The fee on an amount in exact numbers, rounded down. -/
def exactFee (amount rate : Nat) : Nat :=
  amount * rate / feeDenominator

theorem feeDenominator_pos : 0 < feeDenominator := by decide

theorem exactFee_eq_pieces (amount rate : Nat) :
    exactFee amount rate =
      amount / feeDenominator * rate + amount % feeDenominator * rate / feeDenominator := by
  have hsplit : amount * rate =
      amount % feeDenominator * rate + feeDenominator * (amount / feeDenominator * rate) := by
    calc amount * rate =
        (amount % feeDenominator + feeDenominator * (amount / feeDenominator)) * rate := by
          rw [Nat.mod_add_div]
      _ = amount % feeDenominator * rate + feeDenominator * (amount / feeDenominator * rate) := by
          rw [Nat.add_mul, Nat.mul_assoc]
  rw [exactFee, hsplit, Nat.add_mul_div_left _ _ feeDenominator_pos, Nat.add_comm]

section Bounds

variable {amount amount' rate rate' : Nat}

theorem exactFee_le (hrate : rate ≤ feeDenominator) : exactFee amount rate ≤ amount := by
  calc exactFee amount rate ≤ amount * feeDenominator / feeDenominator :=
        Nat.div_le_div_right (Nat.mul_le_mul_left amount hrate)
    _ = amount := Nat.mul_div_cancel amount feeDenominator_pos

theorem exactFee_le_of_le (hamount : amount ≤ amount') (hrate : rate ≤ rate') :
    exactFee amount rate ≤ exactFee amount' rate' :=
  Nat.div_le_div_right (Nat.mul_le_mul hamount hrate)

theorem exactFee_add_le (hrate : rate ≤ feeDenominator) (more : Nat) :
    exactFee (amount + more) rate ≤ exactFee amount rate + more := by
  calc exactFee (amount + more) rate
      ≤ (amount * rate + more * feeDenominator) / feeDenominator := by
        apply Nat.div_le_div_right
        rw [Nat.add_mul]
        exact Nat.add_le_add_left (Nat.mul_le_mul_left more hrate) _
    _ = exactFee amount rate + more := Nat.add_mul_div_right _ _ feeDenominator_pos

theorem exactFee_superadditive (amount amount' rate : Nat) :
    exactFee amount rate + exactFee amount' rate ≤ exactFee (amount + amount') rate := by
  rw [exactFee, exactFee, exactFee, Nat.add_mul]
  exact Nat.div_add_div_le_add_div

theorem exactFee_add_le_succ (amount amount' rate : Nat) :
    exactFee (amount + amount') rate ≤ exactFee amount rate + exactFee amount' rate + 1 := by
  rw [exactFee, exactFee, exactFee, Nat.add_mul]
  exact Nat.add_div_le_div_add_div_add_one _ _ _

end Bounds

/-! ## Steps that stay in their words -/

section Steps

open RangeCheck

variable {a b : Word128} {n : Nat}

theorem exists_enforced_mul (hexact : a.toNat * b.toNat = n) (hlt : n < 2 ^ 128) :
    ∃ c, enforced.mul a b = some c ∧ c.toNat = n := by
  have hword : (BitVec.ofNatLT n hlt).toNat = n := BitVec.toNat_ofNatLT n hlt
  exact ⟨_, enforced_mul_eq_some_iff.mpr (hword.trans hexact.symm), hword⟩

theorem exists_enforced_add (hexact : a.toNat + b.toNat = n) (hlt : n < 2 ^ 128) :
    ∃ c, enforced.add a b = some c ∧ c.toNat = n := by
  have hword : (BitVec.ofNatLT n hlt).toNat = n := BitVec.toNat_ofNatLT n hlt
  exact ⟨_, enforced_add_eq_some_iff.mpr (hword.trans hexact.symm), hword⟩

theorem exists_enforced_sub (hle : b.toNat ≤ a.toNat) :
    ∃ c, enforced.sub a b = some c ∧ b.toNat + c.toNat = a.toNat := by
  have hexact : b.toNat + (a - b).toNat = a.toNat := by
    rw [BitVec.toNat_sub_of_le hle, Nat.add_sub_cancel' hle]
  exact ⟨a - b, enforced_sub_eq_some_iff.mpr hexact, hexact⟩

theorem refines_feeSteps (amount : Word128) (rate : Word64) :
    Refines (feeSteps ignored amount rate) (feeSteps enforced amount rate) :=
  (Refines.step _ _).bind fun _ => (Refines.step _ _).bind fun _ => .step _ _

theorem FeeSplit.refines_steps (amount : Word128) (rate : Word64) :
    Refines (FeeSplit.steps ignored amount rate) (FeeSplit.steps enforced amount rate) :=
  (refines_feeSteps amount rate).bind fun _ => (Refines.step _ _).bind fun _ => .pure _

end Steps

/-- The settlement of an amount whose steps all have to stay in their words. -/
def FeeSplit.checked? (amount : Word128) (rate : Word64) : Option FeeSplit :=
  FeeSplit.steps .enforced amount rate

/-- The two parts of a settlement in exact numbers. -/
structure FeeSplit.IsExact (split : FeeSplit) (amount : Word128) (rate : Word64) : Prop where
  toNat_fee : split.fee.toNat = exactFee amount.toNat rate.toNat
  fee_add_payout : split.fee.toNat + split.payout.toNat = amount.toNat

section Words

variable {amount : Word128} {rate : Word64}

theorem toNat_ofNat_feeDenominator : (BitVec.ofNat 128 feeDenominator).toNat = feeDenominator := by
  decide

theorem toNat_setWidth_rate (rate : Word64) : (rate.setWidth 128).toNat = rate.toNat :=
  BitVec.toNat_setWidth_of_le (by decide)

theorem pieces_sum_lt (hrate : rate.toNat ≤ feeDenominator) :
    amount.toNat / feeDenominator * rate.toNat +
      amount.toNat % feeDenominator * rate.toNat / feeDenominator < 2 ^ 128 := by
  rw [← exactFee_eq_pieces]
  exact Nat.lt_of_le_of_lt (exactFee_le hrate) amount.isLt

theorem multiples_product_lt (hrate : rate.toNat ≤ feeDenominator) :
    amount.toNat / feeDenominator * rate.toNat < 2 ^ 128 :=
  Nat.lt_of_le_of_lt (Nat.le_add_right _ _) (pieces_sum_lt hrate)

theorem remainder_product_lt (hrate : rate.toNat ≤ feeDenominator) :
    amount.toNat % feeDenominator * rate.toNat < 2 ^ 128 := by
  have hmod : amount.toNat % feeDenominator ≤ feeDenominator :=
    Nat.le_of_lt (Nat.mod_lt _ feeDenominator_pos)
  calc amount.toNat % feeDenominator * rate.toNat ≤ feeDenominator * feeDenominator :=
        Nat.mul_le_mul hmod hrate
    _ < 2 ^ 128 := by decide

/-- With an accepted rate the steps of a fee stay in their words and give the exact fee. -/
theorem exists_feeSteps (amount : Word128) (hrate : rate.toNat ≤ feeDenominator) :
    ∃ taken, feeSteps .enforced amount rate = some taken ∧
      taken.toNat = exactFee amount.toNat rate.toNat := by
  -- The pieces sum to the exact fee, which is at most the amount and so fits its word.
  let whole := BitVec.ofNat 128 feeDenominator
  let bps := rate.setWidth 128
  have hwhole : whole.toNat = feeDenominator := toNat_ofNat_feeDenominator
  have hbps : bps.toNat = rate.toNat := toNat_setWidth_rate rate
  have hmultiples : (amount / whole).toNat * bps.toNat =
      amount.toNat / feeDenominator * rate.toNat := by
    rw [BitVec.toNat_udiv, hwhole, hbps]
  have hremainder : (amount % whole).toNat * bps.toNat =
      amount.toNat % feeDenominator * rate.toNat := by
    rw [BitVec.toNat_umod, hwhole, hbps]
  obtain ⟨multiples, hmul, hmulNat⟩ := exists_enforced_mul hmultiples (multiples_product_lt hrate)
  obtain ⟨rest, hrest, hrestNat⟩ := exists_enforced_mul hremainder (remainder_product_lt hrate)
  have hsum : multiples.toNat + (rest / whole).toNat =
      amount.toNat / feeDenominator * rate.toNat +
        amount.toNat % feeDenominator * rate.toNat / feeDenominator := by
    rw [BitVec.toNat_udiv, hmulNat, hrestNat, hwhole]
  obtain ⟨taken, htaken, htakenNat⟩ := exists_enforced_add hsum (pieces_sum_lt hrate)
  refine ⟨taken, ?_, htakenNat.trans (exactFee_eq_pieces _ _).symm⟩
  refine Option.bind_eq_some_iff.mpr ⟨multiples, hmul, ?_⟩
  exact Option.bind_eq_some_iff.mpr ⟨rest, hrest, htaken⟩

/-- With an accepted rate every step of a settlement stays in its word, and its parts are exact. -/
theorem exists_checked (amount : Word128) (hrate : rate.toNat ≤ feeDenominator) :
    ∃ split, FeeSplit.of amount rate = .ok split ∧ FeeSplit.checked? amount rate = some split ∧
      split.IsExact amount rate := by
  obtain ⟨taken, htaken, hexact⟩ := exists_feeSteps amount hrate
  have hle : taken.toNat ≤ amount.toNat := by
    rw [hexact]
    exact exactFee_le hrate
  obtain ⟨left, hleft, hsum⟩ := exists_enforced_sub hle
  have hchecked : FeeSplit.checked? amount rate = some ⟨taken, left⟩ :=
    Option.bind_eq_some_iff.mpr ⟨taken, htaken, Option.bind_eq_some_iff.mpr ⟨left, hleft, rfl⟩⟩
  have hcheck : checkRate rate = .ok () := checkRate_eq_ok_iff.mpr hrate
  refine ⟨⟨taken, left⟩, ?_, hchecked, hexact, hsum⟩
  rw [FeeSplit.of, hcheck, FeeSplit.refines_steps amount rate _ hchecked]
  rfl

theorem exists_feeSplit (amount : Word128) (hrate : rate.toNat ≤ feeDenominator) :
    ∃ split, FeeSplit.of amount rate = .ok split ∧ split.IsExact amount rate := by
  obtain ⟨split, hsplit, -, hexact⟩ := exists_checked amount hrate
  exact ⟨split, hsplit, hexact⟩

variable {split : FeeSplit}

theorem steps_of_checked (h : FeeSplit.checked? amount rate = some split) :
    feeSteps .enforced amount rate = some split.fee ∧
      payoutSteps .enforced amount rate = some split.payout := by
  obtain ⟨taken, htaken, hrest⟩ := Option.bind_eq_some_iff.mp h
  obtain ⟨left, hleft, hsplit⟩ := Option.bind_eq_some_iff.mp hrest
  cases hsplit
  exact ⟨htaken, Option.bind_eq_some_iff.mpr ⟨taken, htaken, hleft⟩⟩

/-! ## The three computations -/

variable {e : FeeError}

theorem checkRate_eq_error_iff :
    checkRate rate = .error e ↔ feeDenominator < rate.toNat ∧ e = .invalidProtocolFee rate := by
  by_cases hrate : feeDenominator < rate.toNat
  · simp [checkRate, hrate, eq_comm]
  · simp [checkRate, hrate]

theorem fee_eq_error_iff :
    fee amount rate = .error e ↔ feeDenominator < rate.toNat ∧ e = .invalidProtocolFee rate := by
  rw [fee, bind_pure_eq_error_iff, checkRate_eq_error_iff]

theorem feeSplit_eq_error_iff :
    FeeSplit.of amount rate = .error e ↔ fee amount rate = .error e := by
  rw [FeeSplit.of, fee, bind_pure_eq_error_iff, bind_pure_eq_error_iff]

theorem payout_eq_error_iff : payout amount rate = .error e ↔ fee amount rate = .error e := by
  rw [payout, fee, bind_pure_eq_error_iff, bind_pure_eq_error_iff]

theorem eq_steps_of_feeSplit (h : FeeSplit.of amount rate = .ok split) :
    checkRate rate = .ok () ∧ split = (FeeSplit.steps .ignored amount rate).run := by
  obtain ⟨u, hcheck, hpure⟩ := bind_eq_ok_iff.mp h
  exact ⟨hcheck, pure_eq_ok_iff.mp hpure⟩

theorem fee_of_feeSplit (h : FeeSplit.of amount rate = .ok split) :
    fee amount rate = .ok split.fee := by
  obtain ⟨hcheck, rfl⟩ := eq_steps_of_feeSplit h
  rw [fee, hcheck]
  rfl

theorem payout_of_feeSplit (h : FeeSplit.of amount rate = .ok split) :
    payout amount rate = .ok split.payout := by
  obtain ⟨hcheck, rfl⟩ := eq_steps_of_feeSplit h
  rw [payout, hcheck]
  rfl

theorem rate_le_of_feeSplit (h : FeeSplit.of amount rate = .ok split) :
    rate.toNat ≤ feeDenominator := by
  obtain ⟨hcheck, -⟩ := eq_steps_of_feeSplit h
  exact checkRate_eq_ok_iff.mp hcheck

end Words

end CrossSwap
