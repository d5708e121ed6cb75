import CrossSwap.Proofs.Canonical.Fields

/-!
# How many items a list is opened with

The first item is searched inside the list.  The count goes on from the remembered place over all
the bytes behind it, so items that follow the list are counted as well, and a list that is not there
as a whole is counted as empty.
-/

namespace CrossSwap

namespace Rlp

variable {bs payload payload' rest rest' tail item : Bytes} {items : List Bytes} {n : Nat}

theorem payload_eq_of_append_eq (hlt : payload.length < sizeLimit)
    (hlt' : payload'.length < sizeLimit)
    (h : listHeader payload.length ++ (payload ++ rest) =
      listHeader payload'.length ++ (payload' ++ rest')) : payload = payload' ∧ rest = rest' := by
  have hread := Header.read_listHeader hlt (payload ++ rest)
  rw [h, Header.read_listHeader hlt'] at hread
  have hlength : payload'.length = payload.length :=
    congrArg Header.payloadLength (Except.ok.inj hread)
  rw [hlength] at h
  exact List.append_inj (List.append_cancel_left h) hlength.symm

theorem splitItem_append (h : splitItem payload = .ok (item, tail)) (rest : Bytes) :
    splitItem (payload ++ rest) = .ok (item, tail ++ rest) := by
  obtain ⟨hitem, rfl⟩ := splitItem_eq_ok_iff.mp h
  exact splitItem_eq_ok_iff.mpr ⟨hitem, List.append_assoc ..⟩

namespace Reader

/-- The reader remembers a place of a walk over `whole` that lies no later than item `i`. -/
structure Past (r : Reader) (whole : Bytes) (i : Nat) : Prop where
  isList_eq : isList r.bytes = true
  exists_cursor : ∃ c, r.cursor = some c ∧ c.index ≤ i ∧
    dropItems c.index whole = .ok (r.bytes.drop c.offset)

theorem Past.item_spec {r : Reader} {whole : Bytes} {i : Nat} (h : r.Past whole i) :
    (r.item i).1 = nthItem i whole ∧ (r.item i).2.Past whole (i + 1) := by
  obtain ⟨c, hcursor, hle, hwalk⟩ := h.exists_cursor
  have horigin : r.origin i = .ok ⟨r.bytes.drop c.offset, i - c.index, c.offset⟩ := by
    rw [Reader.origin, hcursor]
    exact if_pos hle
  have hdrop : dropItems (i - c.index) (r.bytes.drop c.offset) = dropItems i whole := by
    have hsplit : dropItems i whole = dropItems c.index whole >>= dropItems (i - c.index) := by
      rw [← dropItems_add, Nat.add_sub_of_le hle]
    rw [hsplit, hwalk]
    rfl
  obtain ⟨hfound, hsame | ⟨c', hmoved, hindex, hwalk'⟩⟩ :=
    item_of_origin h.isList_eq horigin rfl hdrop
  · refine ⟨hfound, ?_⟩
    rw [hsame]
    exact ⟨h.isList_eq, c, hcursor, Nat.le_succ_of_le hle, hwalk⟩
  · refine ⟨hfound, ?_⟩
    rw [hmoved]
    exact ⟨h.isList_eq, c', rfl, hindex ▸ Nat.le_succ i, hwalk'⟩

theorem start_ofBytes (hlt : payload.length < sizeLimit) (rest : Bytes) (i : Nat) :
    (Reader.ofBytes (listHeader payload.length ++ (payload ++ rest))).start i =
      .ok ⟨payload, i, (listHeader payload.length).length⟩ := by
  have hle : (listHeader payload.length).length + payload.length ≤
      (listHeader payload.length ++ (payload ++ rest)).length := by
    rw [List.length_append, List.length_append]
    omega
  simp only [start, Reader.ofBytes, Header.read_listHeader hlt, bind, Except.bind, Header.total_mk,
    if_pos hle, List.drop_left, List.take_left]

/-- The first item is searched inside the list, and its place is remembered. -/
theorem item_zero_ofBytes (hlt : payload.length < sizeLimit) (rest : Bytes) :
    let r := Reader.ofBytes (listHeader payload.length ++ (payload ++ rest))
    (r.item 0).1 = (splitItem payload).map Prod.fst ∧ (r.item 0).2.Past (payload ++ rest) 1 := by
  intro r
  have hlist : isList r.bytes = true := isList_listHeader hlt (payload ++ rest)
  have horigin : r.origin 0 = .ok ⟨payload, 0, (listHeader payload.length).length⟩ :=
    start_ofBytes hlt rest 0
  rw [Reader.item, if_pos hlist, horigin]
  refine ⟨rfl, hlist, ⟨0, (listHeader payload.length).length + (payload.length - payload.length)⟩,
    rfl, Nat.zero_le 1, ?_⟩
  rw [Nat.sub_self, Nat.add_zero]
  exact congrArg Except.ok List.drop_left.symm

theorem count_of_item_zero {r r' : Reader} (hpos : 0 < r.bytes.length)
    (h : r.item 0 = (.ok item, r')) : r.count = r'.countFrom 1 (r.bytes.length - 1) := by
  obtain ⟨k, hk⟩ := Nat.exists_eq_add_of_le' hpos
  rw [count, hk, countFrom, h]
  rfl

theorem count_of_item_zero_error {r : Reader} {fault : Fault}
    (h : (r.item 0).1 = .error fault) : r.count.1 = 0 := by
  rw [count]
  cases r.bytes.length with
  | zero => rfl
  | succ k =>
      rw [countFrom]
      generalize r.item 0 = step at h
      obtain ⟨found, r'⟩ := step
      cases h
      rfl

/-- If the list starts with a complete item, all the items from its start on are counted, also those
that follow the list. -/
theorem count_of_splitItem (hlt : payload.length < sizeLimit)
    (hfirst : splitItem payload = .ok (item, tail)) {last : Bytes}
    (hs : Splits (payload ++ rest) items last) :
    (Reader.ofBytes (listHeader payload.length ++ (payload ++ rest))).count.1 = items.length := by
  have hpos : 1 ≤ items.length := by
    cases items with
    | nil =>
        obtain ⟨fault, hfault⟩ := hs.unreadable
        have hwhole : payload ++ rest = last := hs.eq_append
        rw [← hwhole, splitItem_append hfirst rest] at hfault
        cases hfault
    | cons first more => exact Nat.le_add_left 1 more.length
  obtain ⟨hfound, hpast⟩ := item_zero_ofBytes hlt rest
  have hlength : (Reader.ofBytes (listHeader payload.length ++ (payload ++ rest))).bytes.length =
      (listHeader payload.length).length + (payload ++ rest).length := List.length_append
  have hheader : 0 < (listHeader payload.length).length :=
    List.length_pos_iff.mpr (Header.write_ne_nil 0xC0 0xF7 payload.length)
  have hle := hs.length_le
  generalize Reader.ofBytes (listHeader payload.length ++ (payload ++ rest)) = r
    at hfound hpast hlength
  rw [hfirst] at hfound
  have hitem : r.item 0 = (.ok item, (r.item 0).2) := Prod.ext hfound rfl
  have hlast : items.length < 1 + (r.bytes.length - 1) := by omega
  rw [count_of_item_zero (by omega) hitem]
  -- From the second item on the search starts at the cursor, where the end of the list is unknown.
  exact (countFrom_eq_length hs (I := fun r i => r.Past (payload ++ rest) i)
    (fun _ _ h => h.item_spec) hpast hpos hlast).1

theorem count_of_unreadable (hlt : payload.length < sizeLimit) (h : Unreadable payload)
    (rest : Bytes) :
    (Reader.ofBytes (listHeader payload.length ++ (payload ++ rest))).count.1 = 0 := by
  obtain ⟨fault, hfault⟩ := h
  obtain ⟨hfound, -⟩ := item_zero_ofBytes hlt rest
  rw [hfault] at hfound
  exact count_of_item_zero_error hfound

theorem exists_fault_of_start (hlist : isList bs = true)
    (h : ∀ payload rest, payload.length < sizeLimit →
      bs ≠ listHeader payload.length ++ (payload ++ rest)) (i : Nat) :
    ∃ fault, (Reader.ofBytes bs).start i = .error fault := by
  cases hread : Header.read bs with
  | error fault => exact ⟨fault, by rw [start, Reader.ofBytes, hread]; rfl⟩
  | ok header =>
      have hcut : ¬header.total ≤ bs.length := by
        intro hle
        have hitem := isItem_take_total hread hle
        have hwhole : isList (bs.take header.total) = true := by
          cases bs with
          | nil => cases hlist
          | cons b rest =>
              have hpos := hitem.length_pos
              rw [List.length_take] at hpos
              rw [List.take_cons (by omega)]
              exact hlist
        obtain ⟨payload, hlt, hpayload⟩ := hitem.exists_payload hwhole
        apply h payload (bs.drop header.total) hlt
        rw [← List.append_assoc, ← hpayload, List.take_append_drop]
      refine ⟨.tooShort, ?_⟩
      rw [start, Reader.ofBytes, hread]
      exact if_neg hcut

end Reader

/-- The number of items that a byte string is opened with. -/
inductive Counted : Bytes → Nat → Prop where
  /-- The list is not there as a whole. -/
  | cut {bs : Bytes} (hlist : isList bs = true)
      (h : ∀ payload rest, payload.length < sizeLimit →
        bs ≠ listHeader payload.length ++ (payload ++ rest)) : Counted bs 0
  /-- No complete item is at the start of the list. -/
  | unreadable {payload : Bytes} (hlt : payload.length < sizeLimit) (h : Unreadable payload)
      (rest : Bytes) : Counted (listHeader payload.length ++ (payload ++ rest)) 0
  /-- A complete item is at the start of the list, and the walk goes on where the list ends. -/
  | walked {payload rest tail : Bytes} {items : List Bytes} (hlt : payload.length < sizeLimit)
      (hfirst : ¬Unreadable payload) (hs : Splits (payload ++ rest) items tail) :
      Counted (listHeader payload.length ++ (payload ++ rest)) items.length

theorem exists_splitItem (h : ¬Unreadable payload) :
    ∃ item tail, splitItem payload = .ok (item, tail) := by
  cases hsplit : splitItem payload with
  | error fault => exact absurd ⟨fault, hsplit⟩ h
  | ok split => exact ⟨split.1, split.2, rfl⟩

theorem Counted.count_eq (h : Counted bs n) :
    isList bs = true ∧ (Reader.ofBytes bs).count.1 = n := by
  cases h with
  | cut hlist h =>
      obtain ⟨fault, hstart⟩ := Reader.exists_fault_of_start hlist h 0
      have horigin : (Reader.ofBytes bs).origin 0 = .error fault := hstart
      have hfound : ((Reader.ofBytes bs).item 0).1 = .error fault := by
        have hlist' : isList (Reader.ofBytes bs).bytes = true := hlist
        rw [Reader.item, if_pos hlist', horigin]
      exact ⟨hlist, Reader.count_of_item_zero_error hfound⟩
  | unreadable hlt h rest =>
      exact ⟨isList_listHeader hlt _, Reader.count_of_unreadable hlt h rest⟩
  | walked hlt hfirst hs =>
      obtain ⟨item, behind, hsplit⟩ := exists_splitItem hfirst
      exact ⟨isList_listHeader hlt _, Reader.count_of_splitItem hlt hsplit hs⟩

theorem exists_counted (hlist : isList bs = true) : ∃ n, Counted bs n := by
  by_cases hwhole : ∃ payload rest, payload.length < sizeLimit ∧
      bs = listHeader payload.length ++ (payload ++ rest)
  · obtain ⟨payload, rest, hlt, rfl⟩ := hwhole
    by_cases hfirst : Unreadable payload
    · exact ⟨0, .unreadable hlt hfirst rest⟩
    · obtain ⟨items, tail, hs⟩ := exists_splits (payload ++ rest)
      exact ⟨items.length, .walked hlt hfirst hs⟩
  · exact ⟨0, .cut hlist fun payload rest hlt hbs => hwhole ⟨payload, rest, hlt, hbs⟩⟩

theorem counted_iff :
    Counted bs n ↔ isList bs = true ∧ (Reader.ofBytes bs).count.1 = n := by
  constructor
  · exact Counted.count_eq
  · rintro ⟨hlist, rfl⟩
    obtain ⟨n, hcounted⟩ := exists_counted hlist
    rwa [hcounted.count_eq.2]

/-- The byte string starts with a list of `n` complete items and nothing else. -/
def StartsWithItems (n : Nat) (bs : Bytes) : Prop :=
  ∃ items rest, items.length = n ∧ (∀ item ∈ items, IsItem item) ∧
    items.flatten.length < sizeLimit ∧ bs = ofItems items ++ rest

theorem splits_of_isItem (h : ∀ item ∈ items, IsItem item) : Splits items.flatten items [] where
  eq_append := (List.append_nil _).symm
  isItem := h
  unreadable := unreadable_nil

/-- A list of complete items is opened with their number, unless it is not empty and a complete item
follows it. -/
theorem counted_ofItems_iff (hitems : ∀ item ∈ items, IsItem item)
    (hlt : items.flatten.length < sizeLimit) :
    Counted (ofItems items ++ rest) items.length ↔ items = [] ∨ Unreadable rest := by
  have hbs : ofItems items ++ rest =
      listHeader items.flatten.length ++ (items.flatten ++ rest) := List.append_assoc ..
  rw [hbs]
  cases items with
  | nil => exact iff_of_true (.unreadable hlt unreadable_nil rest) (.inl rfl)
  | cons item items =>
      have hfirst : ¬Unreadable (item :: items).flatten := by
        rintro ⟨fault, hfault⟩
        rw [(splits_of_isItem hitems).splitItem_cons] at hfault
        cases hfault
      obtain ⟨behind, tail, hs⟩ := exists_splits rest
      have hcounted := Counted.walked hlt hfirst (hs.append hitems)
      constructor
      · intro h
        have hlength : ((item :: items) ++ behind).length = (item :: items).length :=
          hcounted.count_eq.2.symm.trans h.count_eq.2
        rw [List.length_append, Nat.add_eq_left, List.length_eq_zero_iff] at hlength
        subst hlength
        have hrest : rest = tail := hs.eq_append
        exact .inr (hrest ▸ hs.unreadable)
      · rintro (hnil | hrest)
        · cases hnil
        · have hnone : behind = [] := (hs.unique (.nil hrest)).1
          rwa [hnone, List.append_nil] at hcounted

theorem startsWithItems_iff_length (hitems : ∀ item ∈ items, IsItem item)
    (hlt : items.flatten.length < sizeLimit) :
    StartsWithItems n (ofItems items ++ rest) ↔ n = items.length := by
  constructor
  · rintro ⟨items', rest', rfl, hitems', hlt', hbs⟩
    rw [ofItems, ofItems, List.append_assoc, List.append_assoc] at hbs
    obtain ⟨hpayload, -⟩ := payload_eq_of_append_eq hlt hlt' hbs
    have hs := splits_of_isItem hitems'
    rw [← hpayload] at hs
    rw [(hs.unique (splits_of_isItem hitems)).1]
  · rintro rfl
    exact ⟨items, rest, rfl, hitems, hlt, rfl⟩

end Rlp

namespace Fields

open Rlp

theorem exists_open_iff {entity : String} {expected : Nat} {bs : Bytes} :
    (∃ fs, Fields.open entity expected bs = .ok fs) ↔ Counted bs expected := by
  rw [counted_iff]
  constructor
  · rintro ⟨fs, hopen⟩
    obtain ⟨hlist, hcount, -⟩ := open_eq_ok_iff.mp hopen
    exact ⟨hlist, hcount⟩
  · rintro ⟨hlist, hcount⟩
    exact ⟨_, open_eq_ok_iff.mpr ⟨hlist, hcount, rfl⟩⟩

/-- Opening succeeds exactly with the number of items that are counted.  That is the number of items
of the list that the bytes start with exactly if there is no list, or all of it is complete items
and it is empty or no complete item follows it. -/
theorem open_counts_iff (entity : String) (bs : Bytes) :
    (∀ n, (∃ fs, Fields.open entity n bs = .ok fs) ↔ Counted bs n) ∧
    ((∀ n, (∃ fs, Fields.open entity n bs = .ok fs) ↔ StartsWithItems n bs) ↔
      isList bs = false ∨
        ∃ items rest, (∀ item ∈ items, IsItem item) ∧ items.flatten.length < sizeLimit ∧
          bs = ofItems items ++ rest ∧ (items = [] ∨ Unreadable rest)) := by
  refine ⟨fun n => exists_open_iff, ?_⟩
  simp only [exists_open_iff]
  constructor
  · intro h
    cases hlist : isList bs with
    | false => exact .inl rfl
    | true =>
        obtain ⟨n, hcounted⟩ := exists_counted hlist
        obtain ⟨items, rest, rfl, hitems, hlt, rfl⟩ := (h n).mp hcounted
        exact .inr ⟨items, rest, hitems, hlt, rfl, (counted_ofItems_iff hitems hlt).mp hcounted⟩
  · rintro (hlist | ⟨items, rest, hitems, hlt, rfl, hrest⟩) n
    · refine iff_of_false (fun h => ?_) ?_
      · rw [h.count_eq.1] at hlist
        cases hlist
      · rintro ⟨items, rest, -, -, hlt, rfl⟩
        rw [ofItems, List.append_assoc, isList_listHeader hlt] at hlist
        cases hlist
    · have hcounted := (counted_ofItems_iff hitems hlt).mpr hrest
      rw [startsWithItems_iff_length hitems hlt]
      constructor
      · intro h
        exact h.count_eq.2.symm.trans hcounted.count_eq.2
      · rintro rfl
        exact hcounted

/-- A byte behind the list is counted, bytes inside it that start no item are not noticed, and a
list that is cut off is opened as empty. -/
theorem open_miscounts :
    (StartsWithItems 1 [0xC1, 5, 6] ∧
      Fields.open "Custom" 1 [0xC1, 5, 6] = .error (.fieldCount "Custom" 1 2)) ∧
    (¬StartsWithItems 1 [0xC2, 0x80, 0xB8] ∧
      ∃ fs, Fields.open "Custom" 1 [0xC2, 0x80, 0xB8] = .ok fs) ∧
    (¬StartsWithItems 0 [0xC2, 5] ∧ ∃ fs, Fields.open "Custom" 0 [0xC2, 5] = .ok fs) := by
  have hempty : IsItem [0x80] := .data [] (by decide)
  have hlow : IsItem [5] := .byte (by decide)
  have hbroken : Splits [0x80, 0xB8] [[0x80]] [0xB8] :=
    ⟨rfl, List.forall_mem_singleton.mpr hempty, .tooShort, rfl⟩
  refine ⟨⟨⟨[[5]], [6], rfl, List.forall_mem_singleton.mpr hlow, by decide, rfl⟩, rfl⟩,
    ⟨?_, _, rfl⟩, ⟨?_, _, rfl⟩⟩
  · rintro ⟨items, rest, -, hitems, hlt, hbs⟩
    rw [ofItems, List.append_assoc] at hbs
    have hlist : listHeader [0x80, 0xB8].length ++ ([0x80, 0xB8] ++ []) =
        listHeader items.flatten.length ++ (items.flatten ++ rest) := hbs
    have hshort : ([0x80, 0xB8] : Bytes).length < sizeLimit := by decide
    obtain ⟨hpayload, -⟩ := payload_eq_of_append_eq hshort hlt hlist
    obtain ⟨-, htail⟩ := hbroken.unique (hpayload ▸ splits_of_isItem hitems)
    cases htail
  · rintro ⟨items, rest, hcount, -, -, hbs⟩
    rw [List.length_eq_zero_iff.mp hcount] at hbs
    cases hbs

end Fields

end CrossSwap
