import Mathlib.Data.Nat.Digits.Defs
import CrossSwap.Bytes

/-!
# Numbers without leading zeros

A number has exactly one byte string that does not start with zero.  `minimal` writes it, `toNatBE`
reads it, and a number below `256 ^ k` takes at most `k` bytes.
-/

namespace CrossSwap

namespace Numeral

variable {b : Nat}

theorem lowDigits_eq_nil_iff {k n : Nat} : lowDigits b k n = [] ↔ k = 0 ∨ n = 0 := by
  cases k with
  | zero => simp [lowDigits]
  | succ k => by_cases h0 : n = 0 <;> simp [lowDigits, h0]

theorem lt_of_mem_lowDigits (hb : 0 < b) {k n d : Nat} (hd : d ∈ lowDigits b k n) : d < b := by
  induction k generalizing n with
  | zero => simp [lowDigits] at hd
  | succ k ih =>
      by_cases h0 : n = 0
      · simp [lowDigits, h0] at hd
      · rw [lowDigits, if_neg h0, List.mem_cons] at hd
        rcases hd with rfl | hd
        · exact Nat.mod_lt n hb
        · exact ih hd

theorem length_lowDigits_le (hb : 0 < b) (j : Nat) {k n : Nat} (hn : n < Nat.pow b k) :
    (lowDigits b j n).length ≤ k := by
  induction j generalizing k n with
  | zero => exact Nat.zero_le k
  | succ j ih =>
      by_cases h0 : n = 0
      · simp [lowDigits, h0]
      · cases k with
        | zero =>
            have h1 : n < 1 := hn
            omega
        | succ k =>
            have hq : n / b < Nat.pow b k := (Nat.div_lt_iff_lt_mul hb).mpr hn
            have hrest := ih hq
            rw [lowDigits, if_neg h0, List.length_cons]
            omega

/-- The leading digit is not zero, as long as no digit is cut off. -/
theorem getLast?_lowDigits_ne (hb : 2 ≤ b) {k n : Nat} (hn : n < Nat.pow 2 k) :
    (lowDigits b k n).getLast? ≠ some 0 := by
  induction k generalizing n with
  | zero => simp [lowDigits]
  | succ k ih =>
      by_cases h0 : n = 0
      · simp [lowDigits, h0]
      · have hq : n / b < Nat.pow 2 k := by
          apply (Nat.div_lt_iff_lt_mul (by omega)).mpr
          calc n < Nat.pow 2 k * 2 := hn
            _ ≤ Nat.pow 2 k * b := Nat.mul_le_mul_left _ hb
        have hlast := ih hq
        rw [lowDigits, if_neg h0]
        cases hrest : lowDigits b k (n / b) with
        | cons d ds => rwa [hrest] at hlast
        | nil =>
            -- Either no step is left or the quotient is zero; the number is its own last digit.
            have hzero : n / b = 0 := by
              rcases lowDigits_eq_nil_iff.mp hrest with rfl | hzero
              · exact Nat.lt_one_iff.mp hq
              · exact hzero
            have hlt : n < b := by
              rcases Nat.div_eq_zero_iff.mp hzero with hb0 | hlt
              · omega
              · exact hlt
            simpa [Nat.mod_eq_of_lt hlt] using h0

theorem lt_of_mem_digits (hb : 0 < b) {n d : Nat} (hd : d ∈ digits b n) : d < b :=
  lt_of_mem_lowDigits hb (List.mem_reverse.mp hd)

theorem head?_digits_ne (hb : 2 ≤ b) (n : Nat) : (digits b n).head? ≠ some 0 := by
  rw [digits, List.head?_reverse]
  exact getLast?_lowDigits_ne hb Nat.lt_log2_self

theorem value_eq_ofDigits (b : Nat) (ds : List Nat) : value b ds = Nat.ofDigits b ds.reverse := by
  rw [value, Nat.ofDigits_eq_foldr, List.foldr_reverse]
  congr 1
  funext n d
  rw [Nat.cast_id, Nat.mul_comm, Nat.add_comm]

/-- Digits without a leading zero are those of the number that they stand for. -/
theorem digits_ofDigits_reverse (hb : 2 ≤ b) {ds : List Nat} (hlt : ∀ d ∈ ds, d < b)
    (hhead : ds.head? ≠ some 0) : Nat.digits b (Nat.ofDigits b ds.reverse) = ds.reverse := by
  apply Nat.digits_ofDigits b hb
  · intro d hd
    exact hlt d (List.mem_reverse.mp hd)
  · intro hne hzero
    apply hhead
    rw [← List.getLast?_reverse, List.getLast?_eq_some_getLast hne, hzero]

theorem eq_of_value_eq (hb : 2 ≤ b) {ds es : List Nat} (hds : ∀ d ∈ ds, d < b)
    (hes : ∀ e ∈ es, e < b) (hd : ds.head? ≠ some 0) (he : es.head? ≠ some 0)
    (h : value b ds = value b es) : ds = es := by
  rw [value_eq_ofDigits, value_eq_ofDigits] at h
  have hreverse : ds.reverse = es.reverse := by
    rw [← digits_ofDigits_reverse hb hds hd, h, digits_ofDigits_reverse hb hes he]
  exact List.reverse_inj.mp hreverse

end Numeral

namespace Bytes

theorem toNatBE_eq_value (bs : Bytes) :
    toNatBE bs = Numeral.value 256 (bs.map UInt8.toNat) := by
  rw [toNatBE, Numeral.value, List.foldl_map]

theorem toNatBE_append_singleton (bs : Bytes) (b : UInt8) :
    toNatBE (bs ++ [b]) = toNatBE bs * 256 + b.toNat := by
  simp [toNatBE]

theorem toNatBE_reverse (bs : Bytes) : toNatBE bs.reverse = toNatLE bs := by
  induction bs with
  | nil => rfl
  | cons b rest ih =>
      rw [List.reverse_cons, toNatBE_append_singleton, ih, toNatLE]
      omega

/-- Reading a number's `k` low bytes gives the number as far as they hold it. -/
theorem toNatBE_ofNatBE (k n : Nat) : toNatBE (ofNatBE k n) = n % Nat.pow 256 k := by
  rw [ofNatBE, toNatBE_reverse, toNatLE_ofNatLE]

theorem toNatBE_lt (bs : Bytes) : toNatBE bs < Nat.pow 256 bs.length := by
  have hlt := toNatLE_lt bs.reverse
  rwa [← toNatBE_reverse, List.reverse_reverse, List.length_reverse] at hlt

theorem head?_map_toNat_ne {bs : Bytes} (h : bs.head? ≠ some 0) :
    (bs.map UInt8.toNat).head? ≠ some 0 := by
  intro hhead
  rw [List.head?_map] at hhead
  obtain ⟨b, hb, hzero⟩ := Option.map_eq_some_iff.mp hhead
  exact h (hb.trans (congrArg some (UInt8.toNat_inj.mp hzero)))

/-- Two byte strings without a leading zero that stand for one number are the same. -/
theorem eq_of_toNatBE_eq {as bs : Bytes} (has : as.head? ≠ some 0) (hbs : bs.head? ≠ some 0)
    (h : toNatBE as = toNatBE bs) : as = bs := by
  rw [toNatBE_eq_value, toNatBE_eq_value] at h
  have hlt (cs : Bytes) : ∀ d ∈ cs.map UInt8.toNat, d < 256 :=
    List.forall_mem_map.mpr fun c _ => c.toNat_lt
  have hdigits : as.map UInt8.toNat = bs.map UInt8.toNat :=
    Numeral.eq_of_value_eq (by decide) (hlt as) (hlt bs) (head?_map_toNat_ne has)
      (head?_map_toNat_ne hbs) h
  exact List.map_inj_right (fun _ _ => UInt8.toNat_inj.mp) |>.mp hdigits

@[simp] theorem toNatBE_minimal (n : Nat) : toNatBE (minimal n) = n := by
  have hdigits : ((Numeral.digits 256 n).map UInt8.ofNat).map UInt8.toNat =
      Numeral.digits 256 n := by
    rw [List.map_map]
    calc (Numeral.digits 256 n).map (UInt8.toNat ∘ UInt8.ofNat) =
        (Numeral.digits 256 n).map id := by
          apply List.map_congr_left
          intro d hd
          exact UInt8.toNat_ofNat_of_lt' (Numeral.lt_of_mem_digits (by decide) hd)
      _ = Numeral.digits 256 n := List.map_id _
  calc toNatBE (minimal n) =
      Numeral.value 256 (((Numeral.digits 256 n).map UInt8.ofNat).map UInt8.toNat) := by
        rw [toNatBE_eq_value, minimal]
    _ = n := by rw [hdigits, Numeral.value_digits (by decide)]

theorem head?_minimal_ne (n : Nat) : (minimal n).head? ≠ some 0 := by
  rw [minimal, List.head?_map]
  intro h
  obtain ⟨d, hd, hzero⟩ := Option.map_eq_some_iff.mp h
  have hlt : d < 256 := Numeral.lt_of_mem_digits (by decide) (List.mem_of_head? hd)
  have hd0 : d = 0 := by
    have htoNat := congrArg UInt8.toNat hzero
    rwa [UInt8.toNat_ofNat_of_lt' hlt] at htoNat
  exact Numeral.head?_digits_ne (by decide) n (hd0 ▸ hd)

theorem minimal_toNatBE {bs : Bytes} (h : bs.head? ≠ some 0) : minimal (toNatBE bs) = bs :=
  eq_of_toNatBE_eq (head?_minimal_ne _) h (toNatBE_minimal _)

theorem length_minimal_le {k n : Nat} (hn : n < Nat.pow 256 k) : (minimal n).length ≤ k := by
  rw [minimal, List.length_map, Numeral.digits, List.length_reverse]
  exact Numeral.length_lowDigits_le (by decide) _ hn

theorem minimal_ne_nil {n : Nat} (hn : n ≠ 0) : minimal n ≠ [] := by
  intro h
  have hzero := toNatBE_minimal n
  rw [h] at hzero
  exact hn hzero.symm

theorem head?_minimal_append_ne {n : Nat} (hn : n ≠ 0) (rest : Bytes) :
    (minimal n ++ rest).head? ≠ some 0 := by
  cases hminimal : minimal n with
  | nil => exact absurd hminimal (minimal_ne_nil hn)
  | cons b bs => simpa [hminimal] using head?_minimal_ne n

end Bytes

end CrossSwap
