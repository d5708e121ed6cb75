import Mathlib.Data.List.Prime
import Mathlib.NumberTheory.LucasPrimality
import Mathlib.Tactic.NormNum.Prime
import CrossSwap.Curve.Edwards

/-!
# The order of the field is prime

A number is prime if some base has the full order modulo it, which Lucas's test sees at the prime
factors of the number before it.  The large factors pass the test themselves, down to numbers that
trial division settles.
-/

namespace CrossSwap.Edwards

/-! ## Powers -/

section Powers

variable {m k b e : Nat}

theorem cast_powMod (he : e < 2 ^ k) : (powMod m k b e : ZMod m) = (b : ZMod m) ^ e := by
  induction k generalizing b e with
  | zero =>
      have hzero : e = 0 := Nat.lt_one_iff.mp he
      rw [powMod, hzero, pow_zero, Nat.cast_one]
  | succ k ih =>
      have hhalf : e / 2 < 2 ^ k := by
        rw [Nat.div_lt_iff_lt_mul (by decide), ← pow_succ]
        exact he
      have hsquare : (powMod m k (b * b % m) (e / 2) : ZMod m) = (b : ZMod m) ^ (2 * (e / 2)) := by
        rw [ih hhalf, ZMod.natCast_mod, Nat.cast_mul, ← sq, ← pow_mul]
      rw [powMod]
      split
      · rename_i hodd
        have hsplit : e = 2 * (e / 2) + 1 := by omega
        rw [ZMod.natCast_mod, Nat.cast_mul, hsquare, ← pow_succ', ← hsplit]
      · rename_i heven
        have hsplit : e = 2 * (e / 2) := by omega
        rw [hsquare, ← hsplit]

theorem powMod_lt (hm : 1 < m) : powMod m k b e < m := by
  induction k generalizing b e with
  | zero => exact hm
  | succ k ih =>
      rw [powMod]
      split
      · exact Nat.mod_lt _ (Nat.zero_lt_of_lt hm)
      · exact ih

theorem powMod_eq_one_iff (hm : 1 < m) (he : e < 2 ^ k) :
    powMod m k b e = 1 ↔ (b : ZMod m) ^ e = 1 := by
  rw [← cast_powMod he, ← Nat.cast_one (R := ZMod m), ZMod.natCast_eq_natCast_iff',
    Nat.mod_eq_of_lt (powMod_lt hm), Nat.mod_eq_of_lt hm]

end Powers

/-! ## Numbers that pass the test -/

/-- A number, a base, and the prime factors of the number before it. -/
structure Certificate where
  number : Nat
  base : Nat
  factors : List Nat

/-- The base has the full order modulo the number. -/
def Certificate.Passes (c : Certificate) : Prop :=
  1 < c.number ∧ c.number ≤ range ∧ c.factors.prod = c.number - 1 ∧
    powMod c.number 255 c.base (c.number - 1) = 1 ∧
    ∀ q ∈ c.factors, powMod c.number 255 c.base ((c.number - 1) / q) ≠ 1

instance (c : Certificate) : Decidable c.Passes :=
  inferInstanceAs (Decidable (_ ∧ _))

theorem Certificate.prime {c : Certificate} (h : c.Passes) (hfactors : ∀ q ∈ c.factors, q.Prime) :
    c.number.Prime := by
  obtain ⟨hlt, hrange, hprod, hfull, hproper⟩ := h
  have hexponent : ∀ e ≤ c.number - 1, e < 2 ^ 255 := by
    intro e he
    have hpow : range = 2 ^ 255 := by decide
    omega
  apply lucas_primality c.number (c.base : ZMod c.number)
  · exact (powMod_eq_one_iff hlt (hexponent _ le_rfl)).mp hfull
  · intro q hq hdvd
    rw [← hprod, hq.prime.dvd_prod_iff] at hdvd
    obtain ⟨r, hr, hqr⟩ := hdvd
    obtain rfl : q = r := (Nat.prime_dvd_prime_iff_eq hq (hfactors r hr)).mp hqr
    rw [ne_eq, ← powMod_eq_one_iff hlt (hexponent _ (Nat.div_le_self _ _))]
    exact hproper q hr

/-- Each number passes with factors that are known before it. -/
def PassInOrder : List Nat → List Certificate → Prop
  | _, [] => True
  | known, c :: cs =>
      c.Passes ∧ (∀ q ∈ c.factors, q ∈ known) ∧ PassInOrder (c.number :: known) cs

instance decidablePassInOrder : (known : List Nat) → (cs : List Certificate) →
    Decidable (PassInOrder known cs)
  | _, [] => inferInstanceAs (Decidable True)
  | known, c :: cs =>
      have := decidablePassInOrder (c.number :: known) cs
      inferInstanceAs (Decidable (_ ∧ _ ∧ _))

theorem prime_of_passInOrder {known : List Nat} {cs : List Certificate} (h : PassInOrder known cs)
    (hknown : ∀ q ∈ known, q.Prime) : ∀ c ∈ cs, c.number.Prime := by
  induction cs generalizing known with
  | nil => exact List.forall_mem_nil _
  | cons c cs ih =>
      obtain ⟨hpasses, hfactors, hrest⟩ := h
      have hprime : c.number.Prime := Certificate.prime hpasses fun q hq => hknown q (hfactors q hq)
      refine List.forall_mem_cons.mpr ⟨hprime, ih hrest ?_⟩
      exact List.forall_mem_cons.mpr ⟨hprime, hknown⟩

/-! ## The order of the field -/

def smallPrimes : List Nat :=
  [2, 3, 5, 7, 13, 19, 31, 47, 107, 127, 223, 353, 2437, 4153, 57467, 65147, 75707, 132049, 430751,
   569003, 1923133, 8574133]

theorem prime_of_mem_smallPrimes : ∀ q ∈ smallPrimes, q.Prime := by
  simp only [smallPrimes, List.forall_mem_cons, List.not_mem_nil, false_imp_iff, implies_true,
    and_true]
  norm_num

def certificates : List Certificate :=
  [⟨2773320623, 5, [2, 2437, 569003]⟩,
   ⟨72106336199, 7, [2, 13, 2773320623]⟩,
   ⟨1919519569386763, 2, [2, 3, 7, 19, 47, 47, 127, 8574133]⟩,
   ⟨31757755568855353, 10, [2, 2, 2, 3, 31, 107, 223, 4153, 430751]⟩,
   ⟨75445702479781427272750846543864801, 7,
     [2, 2, 2, 2, 2, 3, 3, 5, 5, 75707, 72106336199, 1919519569386763]⟩,
   ⟨74058212732561358302231226437062788676166966415465897661863160754340907, 2,
     [2, 3, 353, 57467, 132049, 1923133, 31757755568855353, 75445702479781427272750846543864801]⟩,
   ⟨prime, 2,
     [2, 2, 3, 65147, 74058212732561358302231226437062788676166966415465897661863160754340907]⟩]

theorem passInOrder_certificates : PassInOrder smallPrimes certificates := by decide +kernel

theorem prime_prime : prime.Prime := by
  have hne : certificates ≠ [] := List.cons_ne_nil _ _
  have hlast : (certificates.getLast hne).number.Prime :=
    prime_of_passInOrder passInOrder_certificates prime_of_mem_smallPrimes _ (List.getLast_mem hne)
  exact hlast

instance : Fact prime.Prime :=
  ⟨prime_prime⟩

end CrossSwap.Edwards
