import CrossSwap.Proofs.Relay.Entities

/-!
# Entities inside lists

What a list hands out is always one complete item.  So an entity that is read in its place in a list
is accepted or refused as it would be on its own, and comes back as it was put there.
-/

namespace CrossSwap

open Rlp

namespace Rlp.Reader

/-- The item at an index as a value of a readable type. -/
def value (α : Type) [Readable α] (r : Reader) (i : Nat) : Except Fault α :=
  (r.item i).1.bind Readable.ofItem

theorem item_ofItems {front back : List Bytes} {item : Bytes}
    (hfront : ∀ item ∈ front, IsItem item) (hitem : IsItem item)
    (hlt : (ofItems (front ++ item :: back)).length < sizeLimit) :
    ((ofBytes (ofItems (front ++ item :: back))).item front.length).1 = .ok item := by
  have hpayload : (front ++ item :: back).flatten.length < sizeLimit :=
    Nat.lt_of_le_of_lt (length_flatten_le_length_ofItems _) hlt
  obtain ⟨hfound, -⟩ := (Over.ofBytes hpayload).item_spec front.length
  -- What follows need not be items: it splits into some, which the search does not reach.
  obtain ⟨items, tail, hback⟩ := exists_splits back.flatten
  have hs : Splits (front ++ item :: back).flatten (front ++ item :: items) tail := by
    rw [List.flatten_append, List.flatten_cons]
    exact (hback.cons hitem).append hfront
  have hget : (front ++ item :: items)[front.length]? = some item := by
    rw [List.getElem?_append_right (Nat.le_refl _), Nat.sub_self, List.getElem?_cons_zero]
  rw [ofItems, hfound, hs.nthItem_eq hget]

end Rlp.Reader

namespace EntityKind

instance : (kind : EntityKind) → Readable kind.Carrier
  | swapOrder => inferInstanceAs (Readable SwapOrder)
  | orderFill => inferInstanceAs (Readable OrderFill)
  | orderCancel => inferInstanceAs (Readable OrderCancel)
  | orderMessage => inferInstanceAs (Readable OrderMessage)

/-- The reading of a nested entity makes no check of its own that the item is complete. -/
theorem readable_ofItem (kind : EntityKind) (item : Bytes) :
    Readable.ofItem item = (Entity.ofItem kind.Carrier item).mapError EncodingError.toFault := by
  cases kind <;> rfl

theorem value_of_item (kind : EntityKind) {r : Reader} {i : Nat} {item : Bytes}
    (h : (r.item i).1 = .ok item) :
    r.value kind.Carrier i =
      (Entity.decode kind.Carrier item).mapError EncodingError.toFault := by
  rw [Entity.decode_of_isItem (Reader.isItem_of_item h), ← readable_ofItem, Reader.value, h]
  rfl

/-- In its place in a list an entity is decoded as on its own, with the fault that its error stands
for; so an entity that was put into a list is read back from there. -/
theorem value_eq_decode (kind : EntityKind) :
    (∀ (r : Reader) (i : Nat) (item : Bytes), (r.item i).1 = .ok item →
      r.value kind.Carrier i =
        (Entity.decode kind.Carrier item).mapError EncodingError.toFault) ∧
    ∀ (a : kind.Carrier) (front back : List Bytes), (∀ item ∈ front, IsItem item) →
      (ofItems (front ++ Entity.encode a :: back)).length < Nat.pow 2 64 →
        (Reader.ofBytes (ofItems (front ++ Entity.encode a :: back))).value kind.Carrier
          front.length = .ok a := by
  refine ⟨fun r i item h => value_of_item kind h, ?_⟩
  intro a front back hfront hlt
  have hmem : Entity.encode a ∈ front ++ Entity.encode a :: back :=
    List.mem_append_right _ List.mem_cons_self
  have hencode : (Entity.encode a).length < sizeLimit :=
    calc (Entity.encode a).length ≤ (front ++ Entity.encode a :: back).flatten.length :=
          length_le_length_flatten hmem
      _ ≤ (ofItems (front ++ Entity.encode a :: back)).length := length_flatten_le_length_ofItems _
      _ < sizeLimit := hlt
  have hdecode := Entity.decode_encode hencode
  rw [value_of_item kind (Reader.item_ofItems hfront (Entity.isItem_of_decode hdecode) hlt),
    hdecode]
  rfl

/-- A cancellation with bytes left over inside its list stands behind a number; a fill stands between
two items of data. -/
theorem value_eq_decode_behind_data :
    let r := Reader.ofBytes [0xC4, 7, 0xC2, 0x80, 0xB8]
    let fill : OrderFill := ⟨300, [0xC1, 0x80], "s"⟩
    (r.item 1).1 = .ok [0xC2, 0x80, 0xB8] ∧ r.value OrderCancel 1 = .ok ⟨[]⟩ ∧
      r.value OrderFill 1 = .error .listLength ∧
      (r.item 0).1 = .ok [7] ∧ r.value OrderMessage 0 = .error .expectedList ∧
      (Reader.ofBytes (ofItems ([[7]] ++ Entity.encode fill :: [[0x81, 0x80]]))).value OrderFill 1 =
        .ok fill := by
  intro r fill
  have hcancel : (r.item 1).1 = .ok [0xC2, 0x80, 0xB8] := rfl
  have hnumber : (r.item 0).1 = .ok [7] := by cbv
  refine ⟨hcancel, ?_, ?_, hnumber, ?_, ?_⟩
  · exact (value_eq_decode .orderCancel).1 r 1 _ hcancel
  · exact (value_eq_decode .orderFill).1 r 1 _ hcancel
  · exact (value_eq_decode .orderMessage).1 r 0 _ hnumber
  · have hlow : IsItem [7] := .byte (by decide)
    exact (value_eq_decode .orderFill).2 fill [[7]] [[0x81, 0x80]]
      (List.forall_mem_singleton.mpr hlow) (by decide)

end EntityKind

end CrossSwap
