/-!
# Positional numerals

A natural number as a list of digits in a base, most significant digit first and without a leading
zero, so that zero has no digits at all.  The number of steps is bounded by the number of bits.
-/

namespace CrossSwap.Numeral

/-- At most `k` digits of `n` in base `b`, least significant first. -/
def lowDigits (b : Nat) : Nat → Nat → List Nat
  | 0, _ => []
  | k + 1, n => if n = 0 then [] else n % b :: lowDigits b k (n / b)

/-- The digits of `n` in base `b`. -/
def digits (b n : Nat) : List Nat :=
  (lowDigits b (n.log2 + 1) n).reverse

/-- The number that a list of digits in base `b` stands for. -/
def value (b : Nat) (ds : List Nat) : Nat :=
  ds.foldl (fun n d => n * b + d) 0

@[simp] theorem digits_zero (b : Nat) : digits b 0 = [] := by
  simp [digits, lowDigits]

@[simp] theorem value_nil (b : Nat) : value b [] = 0 := rfl

theorem value_append_singleton (b : Nat) (ds : List Nat) (d : Nat) :
    value b (ds ++ [d]) = value b ds * b + d := by
  simp [value]

theorem value_reverse_lowDigits {b : Nat} (hb : 2 ≤ b) :
    ∀ k n, n < Nat.pow 2 k → value b (lowDigits b k n).reverse = n := by
  intro k
  induction k with
  | zero => intro n hn; simp at hn; simp [lowDigits, hn]
  | succ k ih =>
    intro n hn
    by_cases h0 : n = 0
    · simp [lowDigits, h0]
    · have hlt : n / b < 2 ^ k := by
        rw [Nat.div_lt_iff_lt_mul (by omega)]
        calc n < 2 ^ k * 2 := by rw [← Nat.pow_succ]; exact hn
          _ ≤ 2 ^ k * b := Nat.mul_le_mul_left _ hb
      simp only [lowDigits, h0, if_false, List.reverse_cons, value_append_singleton, ih _ hlt]
      exact Nat.div_add_mod' n b

/-- Writing a number and reading its digits gives the number. -/
@[simp] theorem value_digits {b : Nat} (hb : 2 ≤ b) (n : Nat) : value b (digits b n) = n :=
  value_reverse_lowDigits hb _ _ Nat.lt_log2_self

end CrossSwap.Numeral
