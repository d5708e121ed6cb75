import CrossSwap.Proofs.Outcome
import CrossSwap.Proofs.Rlp.Header
import CrossSwap.Rlp.Item

/-!
# Items of a payload

A complete item is a low byte, data behind its header or a payload behind the header of a list.
Every byte string splits in one way into complete items and a rest that starts no further one, and
an item of data is known as soon as what it holds is.
-/

namespace CrossSwap.Rlp

/-- The complete items.  Data may be a low byte behind a header, which only `data` refuses. -/
inductive IsItem : Bytes → Prop where
  | byte {b : UInt8} (hb : b.toNat < 0x80) : IsItem [b]
  | data (content : Bytes) (hlt : content.length < sizeLimit) :
      IsItem (dataHeader content.length ++ content)
  | list (payload : Bytes) (hlt : payload.length < sizeLimit) :
      IsItem (listHeader payload.length ++ payload)

theorem IsItem.header {item : Bytes} (hitem : IsItem item) :
    ∃ h, Header.read item = .ok h ∧ h.total = item.length := by
  cases hitem with
  | byte hb => exact ⟨⟨0, 1⟩, Header.read_eq_ok_iff.mpr (.byte [] hb), rfl⟩
  | data content hlt =>
      exact ⟨_, Header.read_dataHeader hlt content, by rw [List.length_append]; rfl⟩
  | list payload hlt =>
      exact ⟨_, Header.read_listHeader hlt payload, by rw [List.length_append]; rfl⟩

theorem IsItem.length_pos {item : Bytes} (hitem : IsItem item) : 0 < item.length := by
  cases hitem with
  | byte hb => exact Nat.one_pos
  | data content hlt =>
      have hheader := List.length_pos_iff.mpr (Header.write_ne_nil 0x80 0xB7 content.length)
      rw [List.length_append]
      exact Nat.add_pos_left hheader _
  | list payload hlt =>
      have hheader := List.length_pos_iff.mpr (Header.write_ne_nil 0xC0 0xF7 payload.length)
      rw [List.length_append]
      exact Nat.add_pos_left hheader _

@[simp] theorem Header.total_mk (headerLength payloadLength : Nat) :
    (⟨headerLength, payloadLength⟩ : Header).total = headerLength + payloadLength := rfl

private theorem length_take_of_total_le {header rest : Bytes} {n : Nat}
    (hle : (⟨header.length, n⟩ : Header).total ≤ (header ++ rest).length) :
    (rest.take n).length = n := by
  rw [Header.total_mk, List.length_append] at hle
  rw [List.length_take]
  omega

/-- A header that is read says where a complete item ends, if the bytes reach that far. -/
theorem isItem_take_total {bs : Bytes} {h : Header} (hread : Header.read bs = .ok h)
    (hle : h.total ≤ bs.length) : IsItem (bs.take h.total) := by
  cases Header.read_eq_ok_iff.mp hread with
  | byte rest hb => exact .byte hb
  | @data n rest hn =>
      have hlength := length_take_of_total_le hle
      have hitem := IsItem.data (rest.take n) (hlength.symm ▸ hn)
      rwa [hlength, ← List.take_length_add_append] at hitem
  | @list n rest hn =>
      have hlength := length_take_of_total_le hle
      have hitem := IsItem.list (rest.take n) (hlength.symm ▸ hn)
      rwa [hlength, ← List.take_length_add_append] at hitem

theorem isItem_iff_header {bs : Bytes} :
    IsItem bs ↔ ∃ h, Header.read bs = .ok h ∧ h.total = bs.length := by
  constructor
  · exact IsItem.header
  · rintro ⟨h, hread, htotal⟩
    have hitem := isItem_take_total hread (Nat.le_of_eq htotal)
    rwa [htotal, List.take_length] at hitem

/-- A header is read also when more bytes follow. -/
theorem Header.read_append {bs : Bytes} {h : Header} (hread : Header.read bs = .ok h)
    (rest : Bytes) : Header.read (bs ++ rest) = .ok h := by
  rw [Header.read_eq_ok_iff] at hread ⊢
  cases hread with
  | byte tail hb => exact .byte (tail ++ rest) hb
  | data tail hn => exact List.append_assoc .. ▸ .data (tail ++ rest) hn
  | list tail hn => exact List.append_assoc .. ▸ .list (tail ++ rest) hn

/-- No complete item is the start of another. -/
theorem IsItem.eq_of_isPrefix {item item' : Bytes} (hitem : IsItem item) (hitem' : IsItem item')
    (h : item <+: item') : item = item' := by
  obtain ⟨rest, rfl⟩ := h
  obtain ⟨header, hread, htotal⟩ := hitem.header
  obtain ⟨header', hread', htotal'⟩ := hitem'.header
  have hsame : header' = header := by
    rw [Header.read_append hread rest] at hread'
    exact (Except.ok.inj hread').symm
  rw [hsame, htotal, List.length_append, Nat.left_eq_add, List.length_eq_zero_iff] at htotal'
  rw [htotal', List.append_nil]

theorem isList_dataHeader {n : Nat} (hlt : n < sizeLimit) (rest : Bytes) :
    isList (dataHeader n ++ rest) = false := by
  obtain ⟨first, more, hwrite, -, hhigh⟩ := Header.exists_first 0x80 (by decide) hlt
  have hheader : dataHeader n = first :: more := hwrite
  rw [hheader, List.cons_append, isList, decide_eq_false_iff_not]
  omega

theorem isList_listHeader {n : Nat} (hlt : n < sizeLimit) (rest : Bytes) :
    isList (listHeader n ++ rest) = true := by
  obtain ⟨first, more, hwrite, hlow, -⟩ := Header.exists_first 0xC0 (by decide) hlt
  have hheader : listHeader n = first :: more := hwrite
  rw [hheader, List.cons_append, isList, decide_eq_true_eq]
  exact hlow

/-- The complete items that are lists. -/
theorem IsItem.exists_payload {bs : Bytes} (hitem : IsItem bs) (hlist : isList bs = true) :
    ∃ payload, payload.length < sizeLimit ∧ bs = listHeader payload.length ++ payload := by
  cases hitem with
  | byte hb =>
      rw [isList, decide_eq_true_eq] at hlist
      omega
  | data content hlt =>
      rw [isList_dataHeader hlt] at hlist
      cases hlist
  | list payload hlt => exact ⟨payload, hlt, rfl⟩

theorem splitItem_eq {bs : Bytes} {h : Header} (hread : Header.read bs = .ok h) :
    splitItem bs =
      if h.total ≤ bs.length then .ok (bs.splitAt h.total) else .error .tooShort := by
  rw [splitItem, hread]
  rfl

/-- What is split off is a complete item. -/
theorem splitItem_eq_ok_iff {bs item rest : Bytes} :
    splitItem bs = .ok (item, rest) ↔ IsItem item ∧ bs = item ++ rest := by
  constructor
  · intro hsplit
    obtain ⟨h, hread, hbody⟩ := bind_eq_ok_iff.mp hsplit
    split at hbody
    · rename_i hle
      rw [List.splitAt_eq] at hbody
      cases hbody
      exact ⟨isItem_take_total hread hle, (List.take_append_drop _ _).symm⟩
    · cases hbody
  · rintro ⟨hitem, rfl⟩
    obtain ⟨h, hread, htotal⟩ := hitem.header
    rw [splitItem_eq (Header.read_append hread rest), htotal, List.splitAt_eq, List.take_left,
      List.drop_left, if_pos (by rw [List.length_append]; omega)]

end CrossSwap.Rlp
