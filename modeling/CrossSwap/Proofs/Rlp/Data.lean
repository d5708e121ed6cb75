import CrossSwap.Proofs.Rlp.Item

/-!
# Items of data

Among the complete items, exactly the one that `ofData` writes is read as given bytes, and exactly
the one that `ofNat` writes as a given number.
-/

namespace CrossSwap.Rlp

/-- A single byte below `0x80`, which stands for itself. -/
def IsLow (bs : Bytes) : Prop :=
  ∃ b : UInt8, bs = [b] ∧ b.toNat < 0x80

theorem ofData_of_isLow {bs : Bytes} (h : IsLow bs) : ofData bs = bs := by
  obtain ⟨b, rfl, hb⟩ := h
  exact if_pos hb

theorem ofData_of_not_isLow {bs : Bytes} (h : ¬IsLow bs) :
    ofData bs = dataHeader bs.length ++ bs := by
  match bs with
  | [] => rfl
  | [b] => exact if_neg fun hb => h ⟨b, rfl, hb⟩
  | _ :: _ :: _ => rfl

theorem data_byte {b : UInt8} (hb : b.toNat < 0x80) : data [b] = .ok [b] :=
  if_pos hb

theorem data_cons (first : UInt8) (rest : Bytes) :
    data (first :: rest) =
      if first.toNat < 0x80 then .ok [first]
      else if first.toNat ≤ 0xB7 then
        if rest.length < first.toNat - 0x80 then .error .inconsistentLength
        else if first.toNat = 0x81 ∧
            ((rest.take (first.toNat - 0x80)).all fun c => c.toNat < 0x80) then
          .error .indirection
        else .ok (rest.take (first.toNat - 0x80))
      else if first.toNat ≤ 0xBF then
        if rest.length < first.toNat - 0xB7 then .error .inconsistentLength
        else if rest.head? = some 0 then .error .indirection
        else if rest.length <
            first.toNat - 0xB7 + Bytes.toNatBE (rest.take (first.toNat - 0xB7)) then
          .error .inconsistentLength
        else
          .ok ((rest.drop (first.toNat - 0xB7)).take
            (Bytes.toNatBE (rest.take (first.toNat - 0xB7))))
      else .error .expectedData := rfl

/-- Data behind its header is read, unless it is a low byte. -/
theorem data_dataHeader {content : Bytes} (hlt : content.length < sizeLimit)
    (hlow : ¬IsLow content) :
    data (dataHeader content.length ++ content) = .ok content := by
  by_cases hshort : content.length ≤ 55
  · obtain ⟨first, hwrite, hfirst⟩ :=
      Header.write_of_le 0x80 0xB7 (by decide) hshort
    have hindirect : ¬(first.toNat = 0x81 ∧ (content.all fun c => c.toNat < 0x80)) := by
      rintro ⟨hone, hall⟩
      have hlength : content.length = 1 := by omega
      obtain ⟨b, rfl⟩ := List.length_eq_one_iff.mp hlength
      exact hlow ⟨b, rfl, by simpa using hall⟩
    have hlength : first.toNat - 0x80 = content.length := by omega
    rw [dataHeader, hwrite, List.singleton_append, data_cons, if_neg (by omega),
      if_pos (by omega), hlength, List.take_length, if_neg (Nat.lt_irrefl _), if_neg hindirect]
  · obtain ⟨first, hwrite, hfirst, hpos, hle⟩ :=
      Header.write_of_lt 0x80 0xB7 (by decide) (Nat.not_le.mp hshort) hlt
    have hhead : (Bytes.minimal content.length ++ content).head? ≠ some 0 :=
      Bytes.head?_minimal_append_ne (by omega) content
    rw [dataHeader, hwrite, List.cons_append, data_cons, if_neg (by omega), if_neg (by omega),
      if_pos (by omega), hfirst, Nat.add_sub_cancel_left, List.take_left, List.drop_left,
      Bytes.toNatBE_minimal, List.take_length, List.length_append, if_neg (by omega),
      if_neg hhead, if_neg (Nat.lt_irrefl _)]

/-- A low byte behind a header is refused. -/
theorem data_dataHeader_of_isLow {content : Bytes} (hlow : IsLow content) :
    data (dataHeader content.length ++ content) = .error .indirection := by
  obtain ⟨b, rfl, hb⟩ := hlow
  obtain ⟨first, hwrite, hfirst⟩ :=
    Header.write_of_le 0x80 0xB7 (by decide) (by decide : 1 ≤ 55)
  have hheader : dataHeader [b].length = [first] := hwrite
  have hlength : first.toNat - 0x80 = [b].length := by
    rw [hfirst]
    rfl
  have hindirect : first.toNat = 0x81 ∧ ([b].all fun c => c.toNat < 0x80) :=
    ⟨hfirst, by simpa using hb⟩
  rw [hheader, List.singleton_append, data_cons, if_neg (by omega), if_pos (by omega),
    hlength, List.take_length, if_neg (Nat.lt_irrefl _), if_pos hindirect]

theorem data_listHeader {payload : Bytes} (hlt : payload.length < sizeLimit) :
    data (listHeader payload.length ++ payload) = .error .expectedData := by
  obtain ⟨first, rest, hwrite, hlow, -⟩ := Header.exists_first 0xC0 (by decide) hlt
  have hheader : listHeader payload.length = first :: rest := hwrite
  rw [hheader, List.cons_append, data_cons, if_neg (by omega), if_neg (by omega),
    if_neg (by omega)]

/-- Data is read back. -/
theorem data_ofData {bs : Bytes} (hlt : bs.length < sizeLimit) : data (ofData bs) = .ok bs := by
  by_cases hlow : IsLow bs
  · obtain ⟨b, rfl, hb⟩ := hlow
    rw [ofData_of_isLow ⟨b, rfl, hb⟩, data_byte hb]
  · rw [ofData_of_not_isLow hlow, data_dataHeader hlt hlow]

theorem isItem_ofData {bs : Bytes} (hlt : bs.length < sizeLimit) : IsItem (ofData bs) := by
  by_cases hlow : IsLow bs
  · obtain ⟨b, rfl, hb⟩ := hlow
    rw [ofData_of_isLow ⟨b, rfl, hb⟩]
    exact .byte hb
  · rw [ofData_of_not_isLow hlow]
    exact .data bs hlt

theorem length_le_length_ofData (bs : Bytes) : bs.length ≤ (ofData bs).length := by
  by_cases hlow : IsLow bs
  · have hsame := congrArg List.length (ofData_of_isLow hlow)
    exact Nat.le_of_eq hsame.symm
  · rw [ofData_of_not_isLow hlow, List.length_append]
    exact Nat.le_add_left _ _

/-- A complete item that is read as bytes is the one that is written for them. -/
theorem eq_ofData_of_data {item bs : Bytes} (hitem : IsItem item) (hread : data item = .ok bs) :
    item = ofData bs := by
  cases hitem with
  | @byte b hb =>
      rw [data_byte hb] at hread
      cases hread
      exact (ofData_of_isLow ⟨b, rfl, hb⟩).symm
  | data content hlt =>
      by_cases hlow : IsLow content
      · rw [data_dataHeader_of_isLow hlow] at hread
        cases hread
      · rw [data_dataHeader hlt hlow] at hread
        cases hread
        exact (ofData_of_not_isLow hlow).symm
  | list payload hlt =>
      rw [data_listHeader hlt] at hread
      cases hread

theorem data_eq_ok_iff {item bs : Bytes} (hitem : IsItem item) (hlt : item.length < sizeLimit) :
    data item = .ok bs ↔ item = ofData bs := by
  constructor
  · exact eq_ofData_of_data hitem
  · rintro rfl
    exact data_ofData (Nat.lt_of_le_of_lt (length_le_length_ofData bs) hlt)

/-- A number is read from its shortest byte string and from no other. -/
theorem word_eq_ok_iff {w : Nat} (hw : w % 8 = 0) {bs : Bytes} {n : BitVec w} :
    word w bs = .ok n ↔ bs = Bytes.minimal n.toNat := by
  have hpow : Nat.pow 256 (w / 8) = Nat.pow 2 w := by
    calc Nat.pow 256 (w / 8) = Nat.pow 2 (8 * (w / 8)) := (Nat.pow_mul 2 8 (w / 8)).symm
      _ = Nat.pow 2 w := by rw [Nat.mul_div_cancel' (Nat.dvd_of_mod_eq_zero hw)]
  constructor
  · intro hread
    rw [word] at hread
    split at hread
    · cases hread
    rename_i hlength
    split at hread
    · cases hread
    rename_i hhead
    cases hread
    have hlt : Bytes.toNatBE bs < Nat.pow 2 w := by
      calc Bytes.toNatBE bs < Nat.pow 256 bs.length := Bytes.toNatBE_lt bs
        _ ≤ Nat.pow 256 (w / 8) := Nat.pow_le_pow_right (by decide) (by omega)
        _ = Nat.pow 2 w := hpow
    have htoNat : (BitVec.ofNat w (Bytes.toNatBE bs)).toNat = Bytes.toNatBE bs := by
      rw [BitVec.toNat_ofNat]
      exact Nat.mod_eq_of_lt hlt
    rw [htoNat, Bytes.minimal_toNatBE hhead]
  · rintro rfl
    have hlength : (Bytes.minimal n.toNat).length ≤ w / 8 :=
      Bytes.length_minimal_le (hpow ▸ n.isLt)
    rw [word, if_neg (by omega), if_neg (Bytes.head?_minimal_ne _), Bytes.toNatBE_minimal,
      BitVec.ofNat_toNat, BitVec.setWidth_eq]

end CrossSwap.Rlp
