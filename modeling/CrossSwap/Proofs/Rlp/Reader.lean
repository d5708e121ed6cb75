import CrossSwap.Proofs.Rlp.Payload
import CrossSwap.Rlp.Reader

/-!
# Readers over one list

Where the bytes hold one list and nothing else, the cursor does not show: every item is the one
that walking from the start of the payload finds, and the count is the number of complete items.
-/

namespace CrossSwap.Rlp

/-- The reader holds one list with the given payload, and its cursor stands where walking from the
start of the payload gets to. -/
structure Reader.Over (r : Reader) (payload : Bytes) : Prop where
  bytes_eq : r.bytes = listHeader payload.length ++ payload
  length_lt : payload.length < sizeLimit
  cursor_eq : ∀ c, r.cursor = some c → dropItems c.index payload = .ok (r.bytes.drop c.offset)

namespace Reader

variable {r : Reader} {whole tail : Bytes} {items : List Bytes} {i : Nat}

/-- What a reader hands out is a complete item, wherever its cursor stands. -/
theorem isItem_of_item {item : Bytes} (h : (r.item i).1 = .ok item) : IsItem item := by
  rw [Reader.item] at h
  split at h
  · cases horigin : r.origin i with
    | error fault =>
        rw [horigin] at h
        cases h
    | ok o =>
        simp only [horigin] at h
        cases hdrop : dropItems o.skip o.bytes with
        | error fault =>
            rw [hdrop] at h
            cases h
        | ok rest =>
            simp only [hdrop] at h
            obtain ⟨⟨item', behind⟩, hsplit, rfl⟩ := map_eq_ok_iff.mp h
            exact (splitItem_eq_ok_iff.mp hsplit).1
  · cases h

/-- A search that starts where walking over `whole` gets to finds the item that walking finds, and
remembers at most the place where it found it. -/
theorem item_of_origin {o : Origin} (hlist : isList r.bytes = true) (horigin : r.origin i = .ok o)
    (hbytes : o.bytes = r.bytes.drop o.offset)
    (hdrop : dropItems o.skip o.bytes = dropItems i whole) :
    (r.item i).1 = nthItem i whole ∧
      ((r.item i).2 = r ∨ ∃ c, (r.item i).2 = { r with cursor := some c } ∧ c.index = i ∧
        dropItems c.index whole = .ok (r.bytes.drop c.offset)) := by
  rw [Reader.item, if_pos hlist, horigin]
  cases hwalk : dropItems i whole with
  | error fault =>
      rw [hwalk] at hdrop
      refine ⟨?_, .inl ?_⟩
      · simp only [hdrop, nthItem, hwalk, bind, Except.bind]
      · simp only [hdrop]
  | ok rest =>
      rw [hwalk] at hdrop
      have hsuffix : rest = o.bytes.drop (o.bytes.length - rest.length) :=
        List.suffix_iff_eq_drop.mp (suffix_of_dropItems hdrop)
      simp only [hdrop, nthItem, hwalk, bind, Except.bind]
      refine ⟨trivial, .inr ⟨⟨i, o.offset + (o.bytes.length - rest.length)⟩, rfl, rfl, ?_⟩⟩
      rw [hwalk, ← List.drop_drop, ← hbytes, ← hsuffix]

/-- Counting stops behind the last complete item, as long as each step finds the item that walking
over `whole` finds. -/
theorem countFrom_eq_length {I : Reader → Nat → Prop} (hs : Splits whole items tail)
    (hstep : ∀ r i, I r i → (r.item i).1 = nthItem i whole ∧ I (r.item i).2 (i + 1)) {k : Nat}
    (h : I r i) (hi : i ≤ items.length) (hk : items.length < i + k) :
    (r.countFrom i k).1 = items.length ∧ I (r.countFrom i k).2 (items.length + 1) := by
  induction k generalizing r i with
  | zero => exact absurd hk (Nat.not_lt.mpr hi)
  | succ k ih =>
      obtain ⟨hfound, hnext⟩ := hstep r i h
      rw [Reader.countFrom]
      generalize r.item i = step at hfound hnext
      obtain ⟨found, r'⟩ := step
      by_cases hlast : i = items.length
      · obtain ⟨fault, hfault⟩ := hs.nthItem_error (Nat.le_of_eq hlast.symm)
        rw [hfault] at hfound
        cases hfound
        exact ⟨hlast, hlast ▸ hnext⟩
      · have hlt : i < items.length := by omega
        rw [hs.nthItem_eq (List.getElem?_eq_getElem hlt)] at hfound
        cases hfound
        exact ih hnext hlt (by omega)

end Reader

namespace Reader.Over

variable {r : Reader} {payload tail : Bytes} {items : List Bytes}

theorem ofBytes (hlt : payload.length < sizeLimit) :
    (Reader.ofBytes (listHeader payload.length ++ payload)).Over payload where
  bytes_eq := rfl
  length_lt := hlt
  cursor_eq := by
    intro c hc
    cases hc

theorem isList_eq (h : r.Over payload) : isList r.bytes = true := by
  rw [h.bytes_eq]
  exact isList_listHeader h.length_lt payload

theorem start_eq (h : r.Over payload) (i : Nat) :
    r.start i = .ok ⟨payload, i, (listHeader payload.length).length⟩ := by
  have hread : Header.read r.bytes = .ok ⟨(listHeader payload.length).length, payload.length⟩ := by
    rw [h.bytes_eq]
    exact Header.read_listHeader h.length_lt payload
  have hlength : r.bytes.length = (listHeader payload.length).length + payload.length := by
    rw [h.bytes_eq, List.length_append]
  have hpayload : (r.bytes.drop (listHeader payload.length).length).take payload.length =
      payload := by
    rw [h.bytes_eq, List.drop_left, List.take_length]
  simp only [Reader.start, hread, bind, Except.bind, Header.total_mk, hlength, Nat.le_refl, if_true,
    hpayload]

/-- Wherever a search starts, it gets to the same place of the payload. -/
theorem exists_origin (h : r.Over payload) (i : Nat) :
    ∃ o, r.origin i = .ok o ∧ o.bytes = r.bytes.drop o.offset ∧
      dropItems o.skip o.bytes = dropItems i payload := by
  have hstart : payload = r.bytes.drop (listHeader payload.length).length := by
    rw [h.bytes_eq, List.drop_left]
  cases hc : r.cursor with
  | none =>
      refine ⟨⟨payload, i, (listHeader payload.length).length⟩, ?_, hstart, rfl⟩
      rw [Reader.origin, hc]
      exact h.start_eq i
  | some c =>
      by_cases hle : c.index ≤ i
      · refine ⟨⟨r.bytes.drop c.offset, i - c.index, c.offset⟩, ?_, rfl, ?_⟩
        · simp only [Reader.origin, hc, if_pos hle]
        · have hwalk : dropItems i payload =
              dropItems c.index payload >>= dropItems (i - c.index) := by
            rw [← dropItems_add, Nat.add_sub_of_le hle]
          rw [hwalk, h.cursor_eq c hc]
          rfl
      · refine ⟨⟨payload, i, (listHeader payload.length).length⟩, ?_, hstart, rfl⟩
        simp only [Reader.origin, hc, if_neg hle]
        exact h.start_eq i

/-- An item is found by its place in the payload, whatever was asked for before. -/
theorem item_spec (h : r.Over payload) (i : Nat) :
    (r.item i).1 = nthItem i payload ∧ (r.item i).2.Over payload := by
  obtain ⟨o, horigin, hbytes, hdrop⟩ := h.exists_origin i
  obtain ⟨hfound, hsame | ⟨c, hmoved, -, hwalk⟩⟩ :=
    Reader.item_of_origin h.isList_eq horigin hbytes hdrop
  · exact ⟨hfound, hsame.symm ▸ h⟩
  · refine ⟨hfound, ?_⟩
    rw [hmoved]
    refine ⟨h.bytes_eq, h.length_lt, ?_⟩
    intro c' hc'
    cases hc'
    exact hwalk

theorem countFrom_spec (h : r.Over payload) (hs : Splits payload items tail) {i k : Nat}
    (hi : i ≤ items.length) (hk : items.length < i + k) :
    (r.countFrom i k).1 = items.length ∧ (r.countFrom i k).2.Over payload :=
  Reader.countFrom_eq_length hs (I := fun r _ => r.Over payload)
    (fun _ i hover => hover.item_spec i) h hi hk

/-- The count is the number of complete items, whatever the tail is. -/
theorem count_spec (h : r.Over payload) (hs : Splits payload items tail) :
    (r.count).1 = items.length ∧ (r.count).2.Over payload := by
  have hheader := List.length_pos_iff.mpr (Header.write_ne_nil 0xC0 0xF7 payload.length)
  have hlength : r.bytes.length = (listHeader payload.length).length + payload.length := by
    rw [h.bytes_eq, List.length_append]
  have hle := hs.length_le
  apply h.countFrom_spec hs (Nat.zero_le _)
  rw [hlength, Nat.zero_add, listHeader]
  omega

end Reader.Over

end CrossSwap.Rlp
