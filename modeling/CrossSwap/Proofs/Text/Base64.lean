import CrossSwap.Bytes
import CrossSwap.Proofs.Text.Alphabet
import CrossSwap.Text.Base64
import CrossSwap.Text.Blank

/-!
# Each byte string has one text in base 64

A group of three bytes and its four characters stand for one number below `2 ^ 24`, and a last group
of one or two bytes for one whose unused bits are zero.  So reading accepts exactly what writing
gives, and none of it is blank.
-/

namespace CrossSwap.Base64

theorem ofNat_eq_iff {n : Nat} {b : UInt8} : UInt8.ofNat n = b ↔ n % 256 = b.toNat := by
  rw [← UInt8.toNat_inj, UInt8.toNat_ofNat']

theorem nodup_alphabet : alphabet.Nodup := by decide

theorem sextet?_eq_some_iff {c : Char} {n : Nat} : sextet? c = some n ↔ n < 64 ∧ c = symbol n :=
  Text.findIdx?_letter_eq_some_iff nodup_alphabet

theorem sextet?_symbol {n : Nat} (h : n < 64) : sextet? (symbol n) = some n :=
  sextet?_eq_some_iff.mpr ⟨h, rfl⟩

theorem sextet?_pad : sextet? '=' = none := by decide +kernel

theorem symbol_ne_pad {n : Nat} (h : n < 64) : symbol n ≠ '=' := by
  intro hpad
  have hsextet := sextet?_symbol h
  rw [hpad, sextet?_pad] at hsextet
  cases hsextet

theorem decode?_encode (bs : Bytes) : decode? (encode bs) = some bs := by
  -- A group is its number `n`: the characters are the digits of `n` at base 64, so `sextet?` gives
  -- them back, and the bytes are those of `n` at base 256.
  fun_induction encode bs with
  | case1 => rfl
  | case2 a n =>
      have ha := a.toNat_lt
      have hn : n < 4096 := by omega
      have hbyte : UInt8.ofNat (n / 16) = a := ofNat_eq_iff.mpr (by omega)
      simp only [decode?, sextet?_symbol (show n / 64 < 64 by omega),
        sextet?_symbol (show n % 64 < 64 by omega), Option.bind_eq_bind, Option.bind_some,
        Nat.div_add_mod', hbyte]
      rw [if_pos (by omega)]
  | case3 a b n =>
      have ha := a.toNat_lt
      have hb := b.toNat_lt
      have hn : n < 262144 := by omega
      have hdigits : (n / 4096 * 64 + n / 64 % 64) * 64 + n % 64 = n := by omega
      have hfirst : UInt8.ofNat (n / 1024) = a := ofNat_eq_iff.mpr (by omega)
      have hsecond : UInt8.ofNat (n / 4) = b := ofNat_eq_iff.mpr (by omega)
      rw [decode?.eq_3 _ _ _ (symbol_ne_pad (by omega))]
      simp only [sextet?_symbol (show n / 4096 < 64 by omega),
        sextet?_symbol (show n / 64 % 64 < 64 by omega),
        sextet?_symbol (show n % 64 < 64 by omega), Option.bind_eq_bind, Option.bind_some,
        hdigits, hfirst, hsecond]
      rw [if_pos (by omega)]
  | case4 a b c rest n ih =>
      have ha := a.toNat_lt
      have hb := b.toNat_lt
      have hc := c.toNat_lt
      have hn : n < 16777216 := by omega
      have hdigits :
          ((n / 262144 * 64 + n / 4096 % 64) * 64 + n / 64 % 64) * 64 + n % 64 = n := by omega
      have hfirst : UInt8.ofNat (n / 65536) = a := ofNat_eq_iff.mpr (by omega)
      have hsecond : UInt8.ofNat (n / 256) = b := ofNat_eq_iff.mpr (by omega)
      have hthird : UInt8.ofNat n = c := ofNat_eq_iff.mpr (by omega)
      have hlast : symbol (n % 64) ≠ '=' := symbol_ne_pad (by omega)
      rw [decode?.eq_4 _ _ _ _ _ (fun _ hpad => absurd hpad hlast) (fun hpad => absurd hpad hlast)]
      simp only [sextet?_symbol (show n / 262144 < 64 by omega),
        sextet?_symbol (show n / 4096 % 64 < 64 by omega),
        sextet?_symbol (show n / 64 % 64 < 64 by omega),
        sextet?_symbol (show n % 64 < 64 by omega), Option.bind_eq_bind, Option.bind_some,
        hdigits, hfirst, hsecond, hthird, ih]
      rfl

theorem eq_encode_of_decode? {cs : List Char} {bs : Bytes} (h : decode? cs = some bs) :
    cs = encode bs := by
  fun_induction decode? cs generalizing bs with
  | case1 =>
      cases h
      rfl
  | case2 w x =>
      simp only [Option.bind_eq_bind, Option.bind_eq_some_iff, sextet?_eq_some_iff] at h
      obtain ⟨i, ⟨hi, rfl⟩, j, ⟨hj, rfl⟩, h⟩ := h
      split at h
      · rename_i hunused
        cases h
        -- The four bits that no byte takes are zero, so nothing of the number is lost.
        have hn : (UInt8.ofNat ((i * 64 + j) / 16)).toNat * 16 = i * 64 + j := by
          rw [UInt8.toNat_ofNat']
          omega
        have hfirst : (i * 64 + j) / 64 = i := by omega
        have hsecond : (i * 64 + j) % 64 = j := by omega
        simp only [encode, hn, hfirst, hsecond]
      · cases h
  | case3 w x y hpad =>
      simp only [Option.bind_eq_bind, Option.bind_eq_some_iff, sextet?_eq_some_iff] at h
      obtain ⟨i, ⟨hi, rfl⟩, j, ⟨hj, rfl⟩, k, ⟨hk, rfl⟩, h⟩ := h
      split at h
      · rename_i hunused
        cases h
        have hn : ((UInt8.ofNat (((i * 64 + j) * 64 + k) / 1024)).toNat * 256 +
            (UInt8.ofNat (((i * 64 + j) * 64 + k) / 4)).toNat) * 4 = (i * 64 + j) * 64 + k := by
          rw [UInt8.toNat_ofNat', UInt8.toNat_ofNat']
          omega
        have hfirst : ((i * 64 + j) * 64 + k) / 4096 = i := by omega
        have hsecond : ((i * 64 + j) * 64 + k) / 64 % 64 = j := by omega
        have hthird : ((i * 64 + j) * 64 + k) % 64 = k := by omega
        simp only [encode, hn, hfirst, hsecond, hthird]
      · cases h
  | case4 w x y z rest hpads hpad ih =>
      simp only [Option.bind_eq_bind, Option.bind_eq_some_iff, sextet?_eq_some_iff] at h
      obtain ⟨i, ⟨hi, rfl⟩, j, ⟨hj, rfl⟩, k, ⟨hk, rfl⟩, l, ⟨hl, rfl⟩, bs, hrest, h⟩ := h
      cases h
      have hn : ((UInt8.ofNat ((((i * 64 + j) * 64 + k) * 64 + l) / 65536)).toNat * 256 +
          (UInt8.ofNat ((((i * 64 + j) * 64 + k) * 64 + l) / 256)).toNat) * 256 +
          (UInt8.ofNat (((i * 64 + j) * 64 + k) * 64 + l)).toNat =
            ((i * 64 + j) * 64 + k) * 64 + l := by
        rw [UInt8.toNat_ofNat', UInt8.toNat_ofNat', UInt8.toNat_ofNat']
        omega
      have hfirst : (((i * 64 + j) * 64 + k) * 64 + l) / 262144 = i := by omega
      have hsecond : (((i * 64 + j) * 64 + k) * 64 + l) / 4096 % 64 = j := by omega
      have hthird : (((i * 64 + j) * 64 + k) * 64 + l) / 64 % 64 = k := by omega
      have hfourth : (((i * 64 + j) * 64 + k) * 64 + l) % 64 = l := by omega
      rw [ih hrest]
      simp only [encode, hn, hfirst, hsecond, hthird, hfourth]
  | case5 => cases h

theorem decode?_eq_some_iff {cs : List Char} {bs : Bytes} :
    decode? cs = some bs ↔ cs = encode bs := by
  constructor
  · exact eq_encode_of_decode?
  · rintro rfl
    exact decode?_encode bs

theorem exists_symbol_of_mem_encode {bs : Bytes} {c : Char} (h : c ∈ encode bs) :
    c = '=' ∨ ∃ n < 64, c = symbol n := by
  fun_induction encode bs with
  | case1 => cases h
  | case2 a n =>
      have ha := a.toNat_lt
      simp only [List.mem_cons, List.not_mem_nil, or_false] at h
      rcases h with rfl | rfl | rfl | rfl
      · exact .inr ⟨n / 64, by omega, rfl⟩
      · exact .inr ⟨n % 64, by omega, rfl⟩
      · exact .inl rfl
      · exact .inl rfl
  | case3 a b n =>
      have ha := a.toNat_lt
      have hb := b.toNat_lt
      simp only [List.mem_cons, List.not_mem_nil, or_false] at h
      rcases h with rfl | rfl | rfl | rfl
      · exact .inr ⟨n / 4096, by omega, rfl⟩
      · exact .inr ⟨n / 64 % 64, by omega, rfl⟩
      · exact .inr ⟨n % 64, by omega, rfl⟩
      · exact .inl rfl
  | case4 a b c rest n ih =>
      have ha := a.toNat_lt
      have hb := b.toNat_lt
      have hc := c.toNat_lt
      simp only [List.mem_cons] at h
      rcases h with rfl | rfl | rfl | rfl | hrest
      · exact .inr ⟨n / 262144, by omega, rfl⟩
      · exact .inr ⟨n / 4096 % 64, by omega, rfl⟩
      · exact .inr ⟨n / 64 % 64, by omega, rfl⟩
      · exact .inr ⟨n % 64, by omega, rfl⟩
      · exact ih hrest

theorem isBlank_of_mem_encode {bs : Bytes} {c : Char} (h : c ∈ encode bs) :
    Text.isBlank c = false := by
  have hall : ∀ n < 64, Text.isBlank (symbol n) = false := by decide +kernel
  rcases exists_symbol_of_mem_encode h with rfl | ⟨n, hn, rfl⟩
  · decide
  · exact hall n hn

end CrossSwap.Base64
