import CrossSwap.Ledger.Address
import CrossSwap.Proofs.Bytes.Minimal
import CrossSwap.Proofs.Text.Alphabet

/-!
# Each byte string has one text in base 58

A byte string is its leading zeros and a number without any, and base 58 keeps the two apart: the
zeros stand as they are and the number is written in digits of its own.  So reading accepts exactly
what writing gives.  Thirty-two bytes never take more than forty-four characters, so the bound on a
text refuses no address.
-/

namespace CrossSwap

namespace Base58

section LeadingZeros

variable {α : Type} [BEq α] [LawfulBEq α] [OfNat α 0]

theorem exists_eq_replicate_append (xs : List α) :
    ∃ rest : List α, xs = List.replicate (leadingZeros xs) 0 ++ rest ∧ rest.head? ≠ some 0 := by
  refine ⟨xs.dropWhile (· == 0), ?_, ?_⟩
  · have hzeros : xs.takeWhile (· == 0) = List.replicate (leadingZeros xs) 0 := by
      apply List.eq_replicate_iff.mpr
      refine ⟨rfl, fun x hx => ?_⟩
      have hall := List.all_eq_true.mp (List.all_takeWhile (p := (· == 0)) (l := xs)) x hx
      exact beq_iff_eq.mp hall
    rw [← hzeros, List.takeWhile_append_dropWhile]
  · intro hhead
    have hnot := List.head?_dropWhile_not (· == 0) xs
    rw [hhead] at hnot
    simp at hnot

theorem leadingZeros_replicate_append (k : Nat) {rest : List α} (h : rest.head? ≠ some 0) :
    leadingZeros (List.replicate k 0 ++ rest) = k := by
  have hrest : rest.takeWhile (· == 0) = [] := by
    cases rest with
    | nil => rfl
    | cons x xs =>
        have hx : ¬(x == 0) = true := by simpa using h
        exact List.takeWhile_cons_of_neg hx
  rw [leadingZeros, List.takeWhile_append, List.takeWhile_replicate, hrest]
  simp

end LeadingZeros

theorem value_replicate_zero_append (b k : Nat) (ds : List Nat) :
    Numeral.value b (List.replicate k 0 ++ ds) = Numeral.value b ds := by
  induction k with
  | zero => rfl
  | succ k ih =>
      calc Numeral.value b (List.replicate (k + 1) 0 ++ ds) =
          Numeral.value b (List.replicate k 0 ++ ds) := by
            simp [Numeral.value, List.replicate_succ]
        _ = Numeral.value b ds := ih

theorem toNatBE_replicate_zero_append (k : Nat) (bs : Bytes) :
    Bytes.toNatBE (List.replicate k 0 ++ bs) = Bytes.toNatBE bs := by
  rw [Bytes.toNatBE_eq_value, Bytes.toNatBE_eq_value, List.map_append, List.map_replicate]
  exact value_replicate_zero_append 256 k _

theorem nodup_alphabet : alphabet.Nodup := by decide

theorem digit?_eq_some_iff {c : Char} {d : Nat} : digit? c = some d ↔ d < 58 ∧ c = symbol d :=
  Text.findIdx?_letter_eq_some_iff nodup_alphabet

theorem mapM_digit?_eq_some_iff {cs : List Char} {ds : List Nat} :
    cs.mapM digit? = some ds ↔ (∀ d ∈ ds, d < 58) ∧ cs = ds.map symbol :=
  Text.mapM_digit?_eq_some_iff fun _ _ => digit?_eq_some_iff

theorem utf8Size_symbol {d : Nat} (h : d < 58) : (symbol d).utf8Size = 1 := by
  have hall : ∀ d < 58, (symbol d).utf8Size = 1 := by decide +kernel
  exact hall d h

/-- The digits that a byte string is written in, with the zeros that lead. -/
def digits (bs : Bytes) : List Nat :=
  List.replicate (leadingZeros bs) 0 ++ Numeral.digits 58 bs.toNatBE

theorem encode_eq_map (bs : Bytes) : encode bs = (digits bs).map symbol := by
  rw [encode, digits, List.map_append, List.map_replicate]
  rfl

theorem lt_of_mem_digits {bs : Bytes} {d : Nat} (h : d ∈ digits bs) : d < 58 := by
  rcases List.mem_append.mp h with hzero | hdigit
  · rw [List.eq_of_mem_replicate hzero]
    decide
  · exact Numeral.lt_of_mem_digits (by decide) hdigit

/-- What is written is read back. -/
theorem decode?_encode (bs : Bytes) : decode? (encode bs) = some bs := by
  -- The number has no leading zero in either base, so the zeros are told apart from it on both sides.
  obtain ⟨rest, hbs, hhead⟩ := exists_eq_replicate_append bs
  have hzeros : leadingZeros (digits bs) = leadingZeros bs := by
    exact leadingZeros_replicate_append _ (Numeral.head?_digits_ne (by decide) _)
  have hnumber : Bytes.minimal (Numeral.value 58 (digits bs)) = rest := by
    rw [digits, value_replicate_zero_append, Numeral.value_digits (by decide), hbs,
      toNatBE_replicate_zero_append, Bytes.minimal_toNatBE hhead]
  have hread : (encode bs).mapM digit? = some (digits bs) :=
    mapM_digit?_eq_some_iff.mpr ⟨fun d => lt_of_mem_digits, encode_eq_map bs⟩
  rw [decode?, hread]
  change some (List.replicate (leadingZeros (digits bs)) 0 ++
    Bytes.minimal (Numeral.value 58 (digits bs))) = some bs
  rw [hzeros, hnumber, ← hbs]

/-- The digits that a text is read as are those that its bytes are written in. -/
theorem digits_replicate_append_minimal {ds : List Nat} (hlt : ∀ d ∈ ds, d < 58) :
    digits (List.replicate (leadingZeros ds) 0 ++ Bytes.minimal (Numeral.value 58 ds)) = ds := by
  obtain ⟨rest, hds, hhead⟩ := exists_eq_replicate_append ds
  have hrest : ∀ d ∈ rest, d < 58 := by
    intro d hd
    apply hlt
    rw [hds]
    exact List.mem_append_right _ hd
  have hnumber : Numeral.digits 58 (Numeral.value 58 ds) = rest := by
    apply Numeral.eq_of_value_eq (b := 58) (by decide)
    · intro d hd
      exact Numeral.lt_of_mem_digits (by decide) hd
    · exact hrest
    · exact Numeral.head?_digits_ne (by decide) _
    · exact hhead
    · rw [Numeral.value_digits (by decide), hds, value_replicate_zero_append,
        ← value_replicate_zero_append 58 (leadingZeros ds) rest, ← hds]
  rw [digits, leadingZeros_replicate_append _ (Bytes.head?_minimal_ne _),
    toNatBE_replicate_zero_append, Bytes.toNatBE_minimal, hnumber, ← hds]

theorem eq_encode_of_decode? {cs : List Char} {bs : Bytes} (h : decode? cs = some bs) :
    cs = encode bs := by
  obtain ⟨ds, hread, hbs⟩ := Option.bind_eq_some_iff.mp h
  obtain ⟨hlt, rfl⟩ := mapM_digit?_eq_some_iff.mp hread
  cases hbs
  rw [encode_eq_map, digits_replicate_append_minimal hlt]

theorem decode?_eq_some_iff {cs : List Char} {bs : Bytes} :
    decode? cs = some bs ↔ cs = encode bs := by
  constructor
  · exact eq_encode_of_decode?
  · rintro rfl
    exact decode?_encode bs

/-- However many of the bytes are leading zeros, the others fit in the characters that are left. -/
theorem pow_bytes_le_pow_digits {k : Nat} (hk : k ≤ 32) :
    Nat.pow 256 (32 - k) ≤ Nat.pow 58 (44 - k) := by
  have hall : ∀ k ≤ 32, Nat.pow 256 (32 - k) ≤ Nat.pow 58 (44 - k) := by decide
  exact hall k hk

theorem length_encode_le {bs : Bytes} (h : bs.length = 32) : (encode bs).length ≤ 44 := by
  obtain ⟨rest, hbs, -⟩ := exists_eq_replicate_append bs
  have hlength : leadingZeros bs + rest.length = 32 := by
    rw [hbs, List.length_append, List.length_replicate] at h
    exact h
  have hlt : Bytes.toNatBE bs < Nat.pow 58 (44 - leadingZeros bs) := by
    calc Bytes.toNatBE bs = Bytes.toNatBE rest := by
          rw [hbs, toNatBE_replicate_zero_append]
      _ < Nat.pow 256 rest.length := Bytes.toNatBE_lt rest
      _ = Nat.pow 256 (32 - leadingZeros bs) := by rw [← hlength, Nat.add_sub_cancel_left]
      _ ≤ Nat.pow 58 (44 - leadingZeros bs) := pow_bytes_le_pow_digits (by omega)
  have hdigits : (Numeral.digits 58 bs.toNatBE).length ≤ 44 - leadingZeros bs := by
    rw [Numeral.digits, List.length_reverse]
    exact Numeral.length_lowDigits_le (by decide) _ hlt
  rw [encode, List.length_append, List.length_replicate, List.length_map]
  omega

end Base58

theorem Text.utf8ByteSize_ofList {cs : List Char} (h : ∀ c ∈ cs, c.utf8Size = 1) :
    (String.ofList cs).utf8ByteSize = cs.length := by
  induction cs with
  | nil => rfl
  | cons c cs ih =>
      have hrest := ih fun c' hc' => h c' (List.mem_cons_of_mem c hc')
      rw [String.ofList_cons, String.utf8ByteSize_append, String.utf8ByteSize_singleton,
        h c List.mem_cons_self, hrest, List.length_cons, Nat.add_comm]

namespace Address

theorem utf8ByteSize_toText_le (a : Address) : a.toText.utf8ByteSize ≤ 44 := by
  have hsize : a.toText.utf8ByteSize = (Base58.encode a.toBytes).length := by
    apply Text.utf8ByteSize_ofList
    intro c hc
    rw [Base58.encode_eq_map] at hc
    obtain ⟨d, hd, rfl⟩ := List.mem_map.mp hc
    exact Base58.utf8Size_symbol (Base58.lt_of_mem_digits hd)
  rw [hsize]
  exact Base58.length_encode_le a.length_toBytes

@[simp] theorem ofText?_toText (a : Address) : ofText? a.toText = some a := by
  have hread : Base58.decode? a.toText.toList = some a.toBytes := by
    rw [toText, String.toList_ofList, Base58.decode?_encode]
  rw [ofText?, if_pos a.utf8ByteSize_toText_le, hread]
  exact dif_pos a.length_toBytes

/-- A text is read as an address exactly when it is the one that the address is written as. -/
theorem ofText?_eq_some_iff {s : String} {a : Address} : ofText? s = some a ↔ s = a.toText := by
  constructor
  · intro h
    simp only [ofText?, Option.bind_eq_bind] at h
    split at h
    · obtain ⟨bs, hread, h⟩ := Option.bind_eq_some_iff.mp h
      split at h
      · cases h
        rw [toText, ← Base58.eq_encode_of_decode? hread, String.ofList_toList]
      · cases h
    · cases h
  · rintro rfl
    exact ofText?_toText a

end Address

end CrossSwap
