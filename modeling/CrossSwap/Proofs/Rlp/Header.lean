import CrossSwap.Proofs.Bytes.Minimal
import CrossSwap.Rlp.Header

/-!
# Each length has one header

Reading takes exactly the headers that are written: a length of at most 55 has the short form, a
longer one the long form with as few bytes as it needs.  So the header of a payload is known as soon
as its length is.
-/

namespace CrossSwap.Rlp

/-- Lengths are words of sixty-four bits. -/
def sizeLimit : Nat := Nat.pow 2 64

theorem sizeLimit_eq_pow : sizeLimit = Nat.pow 256 8 := by decide

theorem lt_sizeLimit_of_le {n : Nat} (hn : n ≤ 255) : n < sizeLimit :=
  Nat.lt_of_le_of_lt hn (by decide)

namespace Header

theorem write_ne_nil (short long n : Nat) : write short long n ≠ [] := by
  rw [write]
  split <;> simp

/-- The short form is one byte. -/
theorem write_of_le (short long : Nat) {n : Nat} (hshort : short ≤ 0xC0) (hn : n ≤ 55) :
    ∃ first, write short long n = [first] ∧ first.toNat = short + n := by
  have hlt : short + n < 256 := by omega
  exact ⟨UInt8.ofNat (short + n), if_pos hn, UInt8.toNat_ofNat_of_lt' hlt⟩

/-- The long form has one to eight bytes behind the first, which tells their number. -/
theorem write_of_lt (short long : Nat) {n : Nat} (hlong : long ≤ 0xF7) (hn : 55 < n)
    (hlt : n < sizeLimit) :
    ∃ first, write short long n = first :: Bytes.minimal n ∧
      first.toNat = long + (Bytes.minimal n).length ∧
        0 < (Bytes.minimal n).length ∧ (Bytes.minimal n).length ≤ 8 := by
  have hpos : 0 < (Bytes.minimal n).length :=
    List.length_pos_iff.mpr (Bytes.minimal_ne_nil (by omega))
  have hle : (Bytes.minimal n).length ≤ 8 := Bytes.length_minimal_le (sizeLimit_eq_pow ▸ hlt)
  have hfirst : long + (Bytes.minimal n).length < 256 := by omega
  refine ⟨UInt8.ofNat (long + (Bytes.minimal n).length), if_neg (by omega), ?_, hpos, hle⟩
  exact UInt8.toNat_ofNat_of_lt' hfirst

/-- The first byte tells data, below `0xC0`, from lists. -/
theorem exists_first (short : Nat) {n : Nat} (hshort : short ≤ 0xC0) (hlt : n < sizeLimit) :
    ∃ first rest, write short (short + 55) n = first :: rest ∧
      short ≤ first.toNat ∧ first.toNat ≤ short + 63 := by
  by_cases hn : n ≤ 55
  · obtain ⟨first, hwrite, hfirst⟩ := write_of_le short (short + 55) hshort hn
    exact ⟨first, [], hwrite, by omega, by omega⟩
  · obtain ⟨first, hwrite, hfirst, hpos, hle⟩ :=
      write_of_lt short (short + 55) (by omega) (Nat.not_le.mp hn) hlt
    exact ⟨first, _, hwrite, by omega, by omega⟩

/-- A first byte in the range of the short form is a whole header. -/
theorem write_toNat_sub (short long : Nat) {first : UInt8} (hlow : short ≤ first.toNat)
    (hhigh : first.toNat ≤ short + 55) : write short long (first.toNat - short) = [first] := by
  rw [write, if_pos (by omega), Nat.add_sub_of_le hlow, UInt8.ofNat_toNat]

theorem ofLengthBytes_eq_ok_iff {k : Nat} {rest : Bytes} {h : Header} :
    ofLengthBytes k rest = .ok h ↔
      rest.head? ≠ some 0 ∧ k ≤ rest.length ∧ 55 < Bytes.toNatBE (rest.take k) ∧
        h = ⟨1 + k, Bytes.toNatBE (rest.take k)⟩ := by
  rw [ofLengthBytes]
  constructor
  · intro hread
    split at hread
    · cases hread
    rename_i hhead
    split at hread
    · cases hread
    rename_i hlength
    split at hread
    · cases hread
    rename_i hlarge
    cases hread
    exact ⟨hhead, Nat.not_lt.mp hlength, Nat.not_le.mp hlarge, rfl⟩
  · rintro ⟨hhead, hlength, hlarge, rfl⟩
    rw [if_neg hhead, if_neg (Nat.not_lt.mpr hlength), if_neg (Nat.not_le.mpr hlarge)]

/-- Length bytes are read back. -/
theorem ofLengthBytes_minimal {n : Nat} (hn : 55 < n) (rest : Bytes) :
    ofLengthBytes (Bytes.minimal n).length (Bytes.minimal n ++ rest) =
      .ok ⟨1 + (Bytes.minimal n).length, n⟩ := by
  have hhead : (Bytes.minimal n ++ rest).head? ≠ some 0 :=
    Bytes.head?_minimal_append_ne (by omega) rest
  have hlength : (Bytes.minimal n).length ≤ (Bytes.minimal n ++ rest).length := by
    rw [List.length_append]
    exact Nat.le_add_right _ _
  rw [ofLengthBytes_eq_ok_iff, List.take_left, Bytes.toNatBE_minimal]
  exact ⟨hhead, hlength, hn, rfl⟩

/-- Length bytes that are read are the long form of the length that they give. -/
theorem eq_write_of_ofLengthBytes (short long : Nat) {first : UInt8} {rest : Bytes}
    {h : Header} (hlow : long < first.toNat) (hhigh : first.toNat ≤ long + 8)
    (hread : ofLengthBytes (first.toNat - long) rest = .ok h) :
    ∃ n tail, n < sizeLimit ∧ first :: rest = write short long n ++ tail ∧
      h = ⟨(write short long n).length, n⟩ := by
  obtain ⟨hhead, hlength, hlarge, rfl⟩ := ofLengthBytes_eq_ok_iff.mp hread
  let k := first.toNat - long
  have htake : (rest.take k).length = k := List.length_take_of_le hlength
  have hminimal : Bytes.minimal (Bytes.toNatBE (rest.take k)) = rest.take k := by
    apply Bytes.minimal_toNatBE
    rwa [List.head?_take, if_neg (by omega)]
  have hwrite : write short long (Bytes.toNatBE (rest.take k)) = first :: rest.take k := by
    rw [write, if_neg (Nat.not_le.mpr hlarge), hminimal, htake, Nat.add_sub_of_le (by omega),
      UInt8.ofNat_toNat]
  refine ⟨Bytes.toNatBE (rest.take k), rest.drop k, ?_, ?_, ?_⟩
  · calc Bytes.toNatBE (rest.take k) < Nat.pow 256 (rest.take k).length := Bytes.toNatBE_lt _
      _ ≤ Nat.pow 256 8 := Nat.pow_le_pow_right (by decide) (by omega)
      _ = sizeLimit := sizeLimit_eq_pow.symm
  · rw [hwrite, List.cons_append, List.take_append_drop]
  · rw [hwrite, List.length_cons, htake, Nat.add_comm]

/-- Of length bytes that are cut off the rest is missing: their first one is still not zero. -/
theorem ofLengthBytes_of_cut {k : Nat} {rest cut : Bytes} {h : Header}
    (hread : ofLengthBytes k rest = .ok h) (hstart : cut <+: rest)
    (hlt : 1 + cut.length < h.headerLength) : ofLengthBytes k cut = .error .tooShort := by
  obtain ⟨hhead, -, -, rfl⟩ := ofLengthBytes_eq_ok_iff.mp hread
  have hhead' : cut.head? ≠ some 0 := by
    obtain ⟨behind, rfl⟩ := hstart
    intro hzero
    exact hhead (by rw [List.head?_append, hzero, Option.some_or])
  have hlength : cut.length < k := Nat.lt_of_add_lt_add_left hlt
  rw [ofLengthBytes, if_neg hhead', if_pos hlength]

/-- The byte strings that start with a header: a byte that is an item of its own, or the one header
of a length. -/
inductive Opens : Bytes → Header → Prop where
  | byte {b : UInt8} (rest : Bytes) (hb : b.toNat < 0x80) : Opens (b :: rest) ⟨0, 1⟩
  | data {n : Nat} (rest : Bytes) (hn : n < sizeLimit) :
      Opens (dataHeader n ++ rest) ⟨(dataHeader n).length, n⟩
  | list {n : Nat} (rest : Bytes) (hn : n < sizeLimit) :
      Opens (listHeader n ++ rest) ⟨(listHeader n).length, n⟩

theorem read_cons (first : UInt8) (rest : Bytes) :
    read (first :: rest) =
      if first.toNat < 0x80 then .ok ⟨0, 1⟩
      else if first.toNat ≤ 0xB7 then .ok ⟨1, first.toNat - 0x80⟩
      else if first.toNat ≤ 0xBF then ofLengthBytes (first.toNat - 0xB7) rest
      else if first.toNat ≤ 0xF7 then .ok ⟨1, first.toNat - 0xC0⟩
      else ofLengthBytes (first.toNat - 0xF7) rest := rfl

theorem read_dataHeader {n : Nat} (hn : n < sizeLimit) (rest : Bytes) :
    read (dataHeader n ++ rest) = .ok ⟨(dataHeader n).length, n⟩ := by
  by_cases hshort : n ≤ 55
  · obtain ⟨first, hwrite, hfirst⟩ := write_of_le 0x80 0xB7 (by decide) hshort
    rw [dataHeader, hwrite, List.singleton_append, read_cons, if_neg (by omega),
      if_pos (by omega), hfirst, Nat.add_sub_cancel_left]
    rfl
  · obtain ⟨first, hwrite, hfirst, hpos, hle⟩ :=
      write_of_lt 0x80 0xB7 (by decide) (Nat.not_le.mp hshort) hn
    rw [dataHeader, hwrite, List.cons_append, read_cons, if_neg (by omega), if_neg (by omega),
      if_pos (by omega), hfirst, Nat.add_sub_cancel_left,
      ofLengthBytes_minimal (Nat.not_le.mp hshort), List.length_cons, Nat.add_comm 1]

theorem read_listHeader {n : Nat} (hn : n < sizeLimit) (rest : Bytes) :
    read (listHeader n ++ rest) = .ok ⟨(listHeader n).length, n⟩ := by
  by_cases hshort : n ≤ 55
  · obtain ⟨first, hwrite, hfirst⟩ := write_of_le 0xC0 0xF7 (by decide) hshort
    rw [listHeader, hwrite, List.singleton_append, read_cons, if_neg (by omega),
      if_neg (by omega), if_neg (by omega), if_pos (by omega), hfirst, Nat.add_sub_cancel_left]
    rfl
  · obtain ⟨first, hwrite, hfirst, hpos, hle⟩ :=
      write_of_lt 0xC0 0xF7 (by decide) (Nat.not_le.mp hshort) hn
    rw [listHeader, hwrite, List.cons_append, read_cons, if_neg (by omega), if_neg (by omega),
      if_neg (by omega), if_neg (by omega), hfirst, Nat.add_sub_cancel_left,
      ofLengthBytes_minimal (Nat.not_le.mp hshort), List.length_cons, Nat.add_comm 1]

/-- A header is read where one was written, and nowhere else. -/
theorem read_eq_ok_iff {bs : Bytes} {h : Header} : read bs = .ok h ↔ Opens bs h := by
  constructor
  · intro hread
    cases bs with
    | nil => cases hread
    | cons first rest =>
        have hfirst := first.toNat_lt
        rw [read_cons] at hread
        split at hread
        · cases hread
          exact .byte rest ‹_›
        split at hread
        · cases hread
          have hheader : write 0x80 0xB7 (first.toNat - 0x80) = [first] :=
            write_toNat_sub 0x80 0xB7 (by omega) (by omega)
          have hlt : first.toNat - 0x80 < sizeLimit := lt_sizeLimit_of_le (by omega)
          have hopens := Opens.data rest hlt
          rwa [dataHeader, hheader] at hopens
        split at hread
        · obtain ⟨n, tail, hn, hbytes, rfl⟩ :=
            eq_write_of_ofLengthBytes 0x80 0xB7 (by omega) (by omega) hread
          rw [hbytes]
          exact .data tail hn
        split at hread
        · cases hread
          have hheader : write 0xC0 0xF7 (first.toNat - 0xC0) = [first] :=
            write_toNat_sub 0xC0 0xF7 (by omega) (by omega)
          have hlt : first.toNat - 0xC0 < sizeLimit := lt_sizeLimit_of_le (by omega)
          have hopens := Opens.list rest hlt
          rwa [listHeader, hheader] at hopens
        · obtain ⟨n, tail, hn, hbytes, rfl⟩ :=
            eq_write_of_ofLengthBytes 0xC0 0xF7 (by omega) (by omega) hread
          rw [hbytes]
          exact .list tail hn
  · intro hopens
    cases hopens with
    | byte rest hb => exact if_pos hb
    | data rest hn => exact read_dataHeader hn rest
    | list rest hn => exact read_listHeader hn rest

/-- A header that is cut off is reported as missing bytes, wherever the cut is. -/
theorem read_of_cut {bs cut : Bytes} {h : Header} (hread : read bs = .ok h) (hstart : cut <+: bs)
    (hlt : cut.length < h.headerLength) : read cut = .error .tooShort := by
  cases cut with
  | nil => rfl
  | cons first cut =>
      obtain ⟨behind, rfl⟩ := hstart
      have hcut : cut <+: cut ++ behind := List.prefix_append cut behind
      rw [List.length_cons, Nat.add_comm] at hlt
      rw [List.cons_append, read_cons] at hread
      rw [read_cons]
      split at hread
      · cases hread
        exact absurd hlt (Nat.not_lt_zero _)
      rw [if_neg ‹_›]
      split at hread
      · cases hread
        exact absurd hlt (Nat.not_lt.mpr (Nat.le_add_right 1 _))
      rw [if_neg ‹_›]
      split at hread
      · rw [if_pos ‹_›]
        exact ofLengthBytes_of_cut hread hcut hlt
      rw [if_neg ‹_›]
      split at hread
      · cases hread
        exact absurd hlt (Nat.not_lt.mpr (Nat.le_add_right 1 _))
      rw [if_neg ‹_›]
      exact ofLengthBytes_of_cut hread hcut hlt

end Header

end CrossSwap.Rlp
