import CrossSwap.Proofs.Rlp.Item

/-!
# Payloads

A payload is a row of complete items and a tail that starts no further item.  Walking over it finds
each item by its index and stops at the tail.
-/

namespace CrossSwap.Rlp

/-- Bytes that start no complete item: none at all, a header that cannot be read, or a header that
announces more bytes than there are. -/
def Unreadable (bs : Bytes) : Prop :=
  ∃ fault, splitItem bs = .error fault

theorem unreadable_nil : Unreadable [] :=
  ⟨.tooShort, rfl⟩

theorem unreadable_iff {bs : Bytes} :
    Unreadable bs ↔ bs = [] ∨ (∀ h, ¬Header.Opens bs h) ∨
      ∃ h, Header.Opens bs h ∧ bs.length < h.total := by
  constructor
  · rintro ⟨fault, hsplit⟩
    cases hread : Header.read bs with
    | error reason =>
        refine .inr (.inl fun h hopens => ?_)
        rw [Header.read_eq_ok_iff.mpr hopens] at hread
        cases hread
    | ok h =>
        rw [splitItem_eq hread] at hsplit
        split at hsplit
        · cases hsplit
        · rename_i hlength
          exact .inr (.inr ⟨h, Header.read_eq_ok_iff.mp hread, Nat.not_le.mp hlength⟩)
  · rintro (rfl | hnone | ⟨h, hopens, hlength⟩)
    · exact unreadable_nil
    · cases hread : Header.read bs with
      | error reason => exact ⟨reason, by rw [splitItem, hread]; rfl⟩
      | ok h => exact absurd (Header.read_eq_ok_iff.mp hread) (hnone h)
    · refine ⟨.tooShort, ?_⟩
      rw [splitItem_eq (Header.read_eq_ok_iff.mpr hopens), if_neg (Nat.not_le.mpr hlength)]

theorem length_le_length_flatten {item : Bytes} {items : List Bytes} (hmem : item ∈ items) :
    item.length ≤ items.flatten.length := by
  obtain ⟨front, back, rfl⟩ := List.append_of_mem hmem
  rw [List.flatten_append, List.flatten_cons, List.length_append, List.length_append]
  omega

theorem length_flatten_le_length_ofItems (items : List Bytes) :
    items.flatten.length ≤ (ofItems items).length := by
  rw [ofItems, List.length_append]
  exact Nat.le_add_left _ _

/-- A payload as its complete items and the tail behind them. -/
structure Splits (payload : Bytes) (items : List Bytes) (tail : Bytes) : Prop where
  eq_append : payload = items.flatten ++ tail
  isItem : ∀ item ∈ items, IsItem item
  unreadable : Unreadable tail

namespace Splits

variable {payload tail item : Bytes} {items : List Bytes}

theorem nil (htail : Unreadable tail) : Splits tail [] tail :=
  ⟨rfl, by simp, htail⟩

theorem cons (hitem : IsItem item) (hs : Splits payload items tail) :
    Splits (item ++ payload) (item :: items) tail where
  eq_append := by rw [List.flatten_cons, List.append_assoc, ← hs.eq_append]
  isItem := List.forall_mem_cons.mpr ⟨hitem, hs.isItem⟩
  unreadable := hs.unreadable

theorem append {items' : List Bytes} (hitems : ∀ item ∈ items, IsItem item)
    (hs : Splits payload items' tail) :
    Splits (items.flatten ++ payload) (items ++ items') tail where
  eq_append := by rw [hs.eq_append, List.flatten_append, List.append_assoc]
  isItem := List.forall_mem_append.mpr ⟨hitems, hs.isItem⟩
  unreadable := hs.unreadable

theorem of_cons (hs : Splits payload (item :: items) tail) :
    IsItem item ∧ ∃ rest, payload = item ++ rest ∧ Splits rest items tail := by
  obtain ⟨hitem, hitems⟩ := List.forall_mem_cons.mp hs.isItem
  refine ⟨hitem, items.flatten ++ tail, ?_, ⟨rfl, hitems, hs.unreadable⟩⟩
  rw [hs.eq_append, List.flatten_cons, List.append_assoc]

theorem splitItem_cons (hs : Splits payload (item :: items) tail) :
    splitItem payload = .ok (item, items.flatten ++ tail) := by
  obtain ⟨hitem, -⟩ := hs.of_cons
  rw [splitItem_eq_ok_iff]
  exact ⟨hitem, by rw [hs.eq_append, List.flatten_cons, List.append_assoc]⟩

theorem length_le (hs : Splits payload items tail) : items.length ≤ payload.length := by
  induction items generalizing payload with
  | nil => exact Nat.zero_le _
  | cons item items ih =>
      obtain ⟨hitem, rest, rfl, hrest⟩ := hs.of_cons
      have hpos := hitem.length_pos
      have hle := ih hrest
      rw [List.length_cons, List.length_append]
      omega

theorem length_le_of_mem (hs : Splits payload items tail) (hmem : item ∈ items) :
    item.length ≤ payload.length := by
  rw [hs.eq_append, List.length_append]
  exact Nat.le_trans (length_le_length_flatten hmem) (Nat.le_add_right _ _)

end Splits

/-- A payload splits in one way only. -/
theorem Splits.unique {payload tail tail' : Bytes} {items items' : List Bytes}
    (hs : Splits payload items tail) (hs' : Splits payload items' tail') :
    items = items' ∧ tail = tail' := by
  induction items generalizing payload items' with
  | nil =>
      obtain ⟨fault, hfault⟩ := hs.unreadable
      have hpayload : payload = tail := hs.eq_append
      cases items' with
      | nil => exact ⟨rfl, hpayload.symm.trans hs'.eq_append⟩
      | cons item' items' =>
          rw [← hpayload, hs'.splitItem_cons] at hfault
          cases hfault
  | cons item items ih =>
      have hsplit := hs.splitItem_cons
      obtain ⟨-, rest, hrest, hsrest⟩ := hs.of_cons
      cases items' with
      | nil =>
          obtain ⟨fault, hfault⟩ := hs'.unreadable
          have hpayload : payload = tail' := hs'.eq_append
          rw [← hpayload, hsplit] at hfault
          cases hfault
      | cons item' items' =>
          obtain ⟨-, rest', hrest', hsrest'⟩ := hs'.of_cons
          rw [hs'.splitItem_cons] at hsplit
          obtain ⟨rfl, -⟩ := Prod.mk.inj (Except.ok.inj hsplit)
          have hsame : rest = rest' := List.append_cancel_left (hrest.symm.trans hrest')
          obtain ⟨rfl, htail⟩ := ih hsrest (hsame ▸ hsrest')
          exact ⟨rfl, htail⟩

/-- Every payload splits. -/
theorem exists_splits (payload : Bytes) : ∃ items tail, Splits payload items tail := by
  induction hn : payload.length using Nat.strongRecOn generalizing payload with
  | ind n ih =>
      subst hn
      cases hsplit : splitItem payload with
      | error fault => exact ⟨[], payload, .nil ⟨fault, hsplit⟩⟩
      | ok split =>
          obtain ⟨item, rest⟩ := split
          obtain ⟨hitem, rfl⟩ := splitItem_eq_ok_iff.mp hsplit
          have hlt : rest.length < (item ++ rest).length := by
            have hpos := hitem.length_pos
            rw [List.length_append]
            omega
          obtain ⟨items, tail, hs⟩ := ih rest.length hlt rest rfl
          exact ⟨item :: items, tail, hs.cons hitem⟩

/-! ## Walking over a payload -/

/-- The item at an index of a payload, found from its start. -/
def nthItem (i : Nat) (payload : Bytes) : Except Fault Bytes := do
  let rest ← dropItems i payload
  (splitItem rest).map Prod.fst

theorem nthItem_of_dropItems {i : Nat} {payload rest : Bytes}
    (h : dropItems i payload = .ok rest) :
    nthItem i payload = (splitItem rest).map Prod.fst := by
  rw [nthItem, h]
  rfl

theorem dropItems_succ (n : Nat) (bs : Bytes) :
    dropItems (n + 1) bs = splitItem bs >>= fun split => dropItems n split.2 := rfl

/-- Skipping in two steps is skipping in one. -/
theorem dropItems_add (m n : Nat) (bs : Bytes) :
    dropItems (m + n) bs = dropItems m bs >>= dropItems n := by
  induction m generalizing bs with
  | zero => rw [Nat.zero_add]; rfl
  | succ m ih =>
      rw [Nat.succ_add, dropItems_succ, dropItems_succ]
      cases splitItem bs with
      | error fault => rfl
      | ok split => exact ih split.2

/-- What is left after skipping ends the byte string. -/
theorem suffix_of_dropItems {n : Nat} {bs rest : Bytes} (h : dropItems n bs = .ok rest) :
    rest <:+ bs := by
  induction n generalizing bs with
  | zero =>
      cases h
      exact List.suffix_refl _
  | succ n ih =>
      rw [dropItems_succ] at h
      obtain ⟨⟨item, behind⟩, hsplit, hdrop⟩ := bind_eq_ok_iff.mp h
      obtain ⟨-, rfl⟩ := splitItem_eq_ok_iff.mp hsplit
      exact (ih hdrop).trans (List.suffix_append item behind)

namespace Splits

variable {payload tail item : Bytes} {items : List Bytes}

theorem dropItems_eq (hs : Splits payload items tail) {i : Nat} (hi : i ≤ items.length) :
    dropItems i payload = .ok ((items.drop i).flatten ++ tail) := by
  induction i generalizing payload items with
  | zero => rw [hs.eq_append]; rfl
  | succ i ih =>
      cases items with
      | nil => exact absurd hi (Nat.not_succ_le_zero i)
      | cons item items =>
          obtain ⟨hitem, rest, rfl, hrest⟩ := hs.of_cons
          rw [dropItems_succ, splitItem_eq_ok_iff.mpr ⟨hitem, rfl⟩]
          exact ih hrest (Nat.le_of_succ_le_succ hi)

/-- The items of a payload are found at their index. -/
theorem nthItem_eq (hs : Splits payload items tail) {i : Nat} (hi : items[i]? = some item) :
    nthItem i payload = .ok item := by
  obtain ⟨hlt, hget⟩ := List.getElem?_eq_some_iff.mp hi
  have hdrop : items.drop i = item :: items.drop (i + 1) := by
    rw [List.drop_eq_getElem_cons hlt, hget]
  have hitem : IsItem item := hs.isItem item (List.mem_of_getElem? hi)
  have hsplit : splitItem ((items.drop i).flatten ++ tail) =
      .ok (item, (items.drop (i + 1)).flatten ++ tail) := by
    rw [hdrop, List.flatten_cons, List.append_assoc]
    exact splitItem_eq_ok_iff.mpr ⟨hitem, rfl⟩
  rw [nthItem_of_dropItems (hs.dropItems_eq (Nat.le_of_lt hlt)), hsplit]
  rfl

/-- No item is found at the tail or behind it. -/
theorem nthItem_error (hs : Splits payload items tail) {i : Nat} (hi : items.length ≤ i) :
    ∃ fault, nthItem i payload = .error fault := by
  obtain ⟨fault, hfault⟩ := hs.unreadable
  have hdrop : dropItems items.length payload = .ok tail := by
    rw [hs.dropItems_eq (Nat.le_refl _), List.drop_length]
    rfl
  obtain ⟨n, rfl⟩ := Nat.exists_eq_add_of_le hi
  refine ⟨fault, ?_⟩
  cases n with
  | zero =>
      rw [Nat.add_zero, nthItem_of_dropItems hdrop, hfault]
      rfl
  | succ n =>
      have hskip : dropItems (items.length + (n + 1)) payload = .error fault := by
        rw [dropItems_add, hdrop]
        change dropItems (n + 1) tail = _
        rw [dropItems_succ, hfault]
        rfl
      rw [nthItem, hskip]
      rfl

end Splits

/-! ## The part of a list that is not read -/

/-- What is left of a payload behind the items at its start, at most `k` of which are skipped. -/
def skipItems : Nat → Bytes → Bytes
  | 0, bs => bs
  | k + 1, bs =>
    match splitItem bs with
    | .ok (_, rest) => skipItems k rest
    | .error _ => bs

/-- The bytes inside a list that lie behind the last item that can be read. -/
def unread (bs : Bytes) : Bytes :=
  match Header.read bs with
  | .ok h => skipItems bs.length ((bs.drop h.headerLength).take h.payloadLength)
  | .error _ => []

namespace Splits

variable {payload tail : Bytes} {items : List Bytes}

theorem skipItems_eq (hs : Splits payload items tail) {k : Nat} (hk : items.length ≤ k) :
    skipItems k payload = tail := by
  induction items generalizing payload k with
  | nil =>
      obtain ⟨fault, hfault⟩ := hs.unreadable
      have htail : payload = tail := hs.eq_append
      rw [htail]
      cases k with
      | zero => rfl
      | succ k => simp only [skipItems, hfault]
  | cons item items ih =>
      cases k with
      | zero => exact absurd hk (Nat.not_succ_le_zero _)
      | succ k =>
          obtain ⟨-, rest, hrest, hsrest⟩ := hs.of_cons
          simp only [skipItems, hs.splitItem_cons, ← hsrest.eq_append]
          exact ih hsrest (Nat.le_of_succ_le_succ hk)

theorem unread_eq (hs : Splits payload items tail) (hlt : payload.length < sizeLimit) :
    unread (listHeader payload.length ++ payload) = tail := by
  have hlength : items.length ≤ (listHeader payload.length ++ payload).length := by
    rw [List.length_append]
    exact Nat.le_trans hs.length_le (Nat.le_add_left _ _)
  simp only [unread, Header.read_listHeader hlt, List.drop_left, List.take_length]
  exact hs.skipItems_eq hlength

end Splits

end CrossSwap.Rlp
