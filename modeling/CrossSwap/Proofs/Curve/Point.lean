import Mathlib.NumberTheory.LegendreSymbol.Basic
import Mathlib.Tactic.FieldSimp
import Mathlib.Tactic.LinearCombination
import CrossSwap.Proofs.Curve.Field

/-!
# Which byte strings stand for points

The check for a point computes in numbers what the equation of the curve says in the field.  The
equation gives `x²` as a quotient whose divisor is never zero, since `-1` is a square and the
coefficient is not.
-/

namespace CrossSwap.Edwards

theorem isSquare_iff {n : Nat} : isSquare n = true ↔ IsSquare (n : ZMod prime) := by
  have hlt : 1 < prime := prime_prime.one_lt
  have hhalf : (prime - 1) / 2 = prime / 2 := by decide
  have hexponent : (prime - 1) / 2 < 2 ^ 255 := by decide
  rw [isSquare, Bool.or_eq_true, beq_iff_eq, beq_iff_eq, powMod_eq_one_iff hlt hexponent,
    ZMod.natCast_mod, hhalf, ← Nat.dvd_iff_mod_eq_zero, ← ZMod.natCast_eq_zero_iff]
  by_cases hzero : (n : ZMod prime) = 0
  · simp [hzero]
  · rw [ZMod.euler_criterion prime hzero]
    simp [hzero]

theorem not_isSquare_coefficient : ¬IsSquare (coefficient : ZMod prime) := by
  rw [← isSquare_iff]
  decide +kernel

theorem isSquare_neg_one : IsSquare (-1 : ZMod prime) := by
  rw [ZMod.exists_sq_eq_neg_one_iff]
  decide

theorem coefficient_mul_sq_add_one_ne_zero (y : ZMod prime) : coefficient * y ^ 2 + 1 ≠ 0 := by
  intro hzero
  have hy : y ≠ 0 := by
    rintro rfl
    simp at hzero
  obtain ⟨i, hi⟩ := isSquare_neg_one
  apply not_isSquare_coefficient
  refine ⟨i / y, ?_⟩
  have hcoefficient : (coefficient : ZMod prime) * y ^ 2 = i * i := by
    rw [← hi]
    linear_combination hzero
  field_simp
  linear_combination hcoefficient

/-- The equation of the curve. -/
def OnCurve (x y : ZMod prime) : Prop :=
  -x ^ 2 + y ^ 2 = 1 + coefficient * x ^ 2 * y ^ 2

theorem exists_onCurve_iff {y : ZMod prime} :
    (∃ x, OnCurve x y) ↔ IsSquare ((y ^ 2 - 1) * (coefficient * y ^ 2 + 1)) := by
  have hdivisor := coefficient_mul_sq_add_one_ne_zero y
  constructor
  · rintro ⟨x, hx⟩
    refine ⟨x * (coefficient * y ^ 2 + 1), ?_⟩
    rw [OnCurve] at hx
    linear_combination (coefficient * y ^ 2 + 1) * hx
  · rintro ⟨s, hs⟩
    obtain ⟨x, rfl⟩ : ∃ x, s = x * (coefficient * y ^ 2 + 1) :=
      ⟨s / (coefficient * y ^ 2 + 1), (div_mul_cancel₀ s hdivisor).symm⟩
    refine ⟨x, ?_⟩
    have hquotient : y ^ 2 - 1 = x ^ 2 * (coefficient * y ^ 2 + 1) := by
      apply mul_right_cancel₀ hdivisor
      linear_combination hs
    rw [OnCurve]
    linear_combination hquotient

theorem hasPoint_iff {y : Nat} : hasPoint y = true ↔ ∃ x, OnCurve x (y : ZMod prime) := by
  have hone : ((prime - 1 : Nat) : ZMod prime) = -1 := by
    rw [Nat.cast_sub prime_prime.one_le, ZMod.natCast_self, Nat.cast_one, zero_sub]
  rw [hasPoint, isSquare_iff, exists_onCurve_iff]
  simp only [Nat.cast_mul, ZMod.natCast_mod, Nat.cast_add, Nat.cast_pow, hone, Nat.cast_one, ← sq,
    ← sub_eq_add_neg]

/-- The number that the bits of a byte string give, the last bit apart. -/
def ordinate (bs : Bytes) : ZMod prime :=
  (bs.toNatLE % range : Nat)

/-- The curve has a point at the number of a byte string. -/
def StandsForPoint (bs : Bytes) : Prop :=
  ∃ x, OnCurve x (ordinate bs)

theorem isPoint_iff {bs : Bytes} : isPoint bs = true ↔ StandsForPoint bs :=
  hasPoint_iff

end CrossSwap.Edwards
