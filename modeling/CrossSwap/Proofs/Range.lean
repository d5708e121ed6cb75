import CrossSwap.Range

/-!
# Computations whose steps stay in range

A step with its condition enforced gives the exact result or none.  A computation that ignores the
conditions of its steps refines the one that enforces them: this holds of one step, and so of steps
in a row.
-/

namespace CrossSwap

open RangeCheck

/-! ## Exact steps -/

namespace RangeCheck

variable {a b c : Word128} {n k start stop : Nat} {α : Type} {xs ys : List α}

theorem enforced_mul_eq_some_iff : enforced.mul a b = some c ↔ c.toNat = a.toNat * b.toNat := by
  rw [mul, enforced_step_eq_some_iff]
  constructor
  · rintro ⟨hword, rfl⟩
    exact BitVec.toNat_mul_of_not_umulOverflow hword
  · intro hexact
    have hword : ¬a.umulOverflow b := by
      rw [BitVec.umulOverflow, decide_eq_true_iff, ← hexact]
      exact Nat.not_le.mpr c.isLt
    refine ⟨hword, BitVec.eq_of_toNat_eq ?_⟩
    rw [BitVec.toNat_mul_of_not_umulOverflow hword, hexact]

theorem enforced_add_eq_some_iff : enforced.add a b = some c ↔ c.toNat = a.toNat + b.toNat := by
  rw [add, enforced_step_eq_some_iff]
  constructor
  · rintro ⟨hword, rfl⟩
    exact BitVec.toNat_add_of_not_uaddOverflow hword
  · intro hexact
    have hword : ¬a.uaddOverflow b := by
      rw [BitVec.uaddOverflow, decide_eq_true_iff, ← hexact]
      exact Nat.not_le.mpr c.isLt
    refine ⟨hword, BitVec.eq_of_toNat_eq ?_⟩
    rw [BitVec.toNat_add_of_not_uaddOverflow hword, hexact]

theorem enforced_sub_eq_some_iff : enforced.sub a b = some c ↔ b.toNat + c.toNat = a.toNat := by
  rw [sub, enforced_step_eq_some_iff, BitVec.usubOverflow, decide_eq_true_iff, Nat.not_lt]
  constructor
  · rintro ⟨hle, rfl⟩
    rw [BitVec.toNat_sub_of_le hle, Nat.add_sub_cancel' hle]
  · intro hexact
    have hle : b.toNat ≤ a.toNat := by
      rw [← hexact]
      exact Nat.le_add_right b.toNat c.toNat
    refine ⟨hle, BitVec.eq_of_toNat_eq ?_⟩
    rw [BitVec.toNat_sub_of_le hle, ← hexact, Nat.add_sub_cancel_left]

theorem enforced_pred_eq_some_iff : enforced.pred n = some k ↔ n = k + 1 := by
  rw [pred, enforced_step_eq_some_iff]
  omega

theorem enforced_places_eq_some_iff :
    enforced.places n = some k ↔ n < Nat.pow 2 64 ∧ n = k :=
  enforced_step_eq_some_iff

theorem enforced_slice_eq_some_iff :
    enforced.slice xs start stop = some ys ↔
      (start ≤ stop ∧ stop ≤ xs.length) ∧ (xs.drop start).take (stop - start) = ys :=
  enforced_step_eq_some_iff

end RangeCheck

/-! ## Steps in a row -/

/-- What the checked computation gives, the unchecked one gives as well. -/
def Refines {α : Type} (x : Id α) (y : Option α) : Prop :=
  ∀ a, y = some a → x.run = a

namespace Refines

variable {α β : Type} {x : Id α} {y : Option α} {f : α → Id β} {g : α → Option β}

theorem pure (a : α) : Refines (Pure.pure a) (Pure.pure a) :=
  fun _ h => Option.some.inj h

theorem step (p : Prop) [Decidable p] (a : α) : Refines (ignored.step p a) (enforced.step p a) :=
  fun _ h => (enforced_step_eq_some_iff.mp h).2

theorem bind (h : Refines x y) (hf : ∀ a, Refines (f a) (g a)) : Refines (x >>= f) (y >>= g) := by
  intro b hb
  obtain ⟨a, hy, hg⟩ := Option.bind_eq_some_iff.mp hb
  rw [← h a hy] at hg
  exact hf x.run b hg

theorem eq_some (h : Refines x y) (hy : y.isSome) : y = some x.run := by
  obtain ⟨a, ha⟩ := Option.isSome_iff_exists.mp hy
  rw [ha, h a ha]

end Refines

theorem isSome_bind {α β : Type} {y : Option α} {g : α → Option β} {a : α} (hy : y = some a)
    (hg : (g a).isSome) : (y >>= g).isSome := by
  rw [hy]
  exact hg

end CrossSwap
