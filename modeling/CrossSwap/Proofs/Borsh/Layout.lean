import CrossSwap.Ledger.Address
import CrossSwap.Order.Layout
import CrossSwap.Proofs.Outcome

/-!
# What a layout writes

A byte string holds a value and nothing else exactly when it is what the value is written as.
Writing fails only where a text or a byte string is too long for its length to be written.
-/

namespace CrossSwap

namespace Borsh.Layout

variable {α β : Type} {l : Layout α} {m : Layout β}

/-- Reading a whole byte string accepts what was written and nothing else. -/
theorem readAll_eq_ok_iff {bs : Bytes} {a : α} : l.readAll bs = .ok a ↔ l.write a = .ok bs := by
  constructor
  · intro h
    obtain ⟨⟨b, rest⟩, hread, hrest⟩ := bind_eq_ok_iff.mp h
    obtain ⟨e, hwrite, rfl⟩ := l.write_read hread
    cases rest with
    | nil =>
        cases hrest
        rw [List.append_nil]
        exact hwrite
    | cons c more => cases hrest
  · intro hwrite
    have hread := l.read_write [] hwrite
    rw [List.append_nil] at hread
    rw [readAll, hread]
    rfl

/-- Writing the value succeeds. -/
def Writable (l : Layout α) (a : α) : Prop :=
  ∃ e, l.write a = .ok e

theorem writable_pair_iff {p : α × β} :
    (pair l m).Writable p ↔ l.Writable p.1 ∧ m.Writable p.2 := by
  constructor
  · rintro ⟨e, h⟩
    obtain ⟨e₁, h₁, hrest⟩ := bind_eq_ok_iff.mp h
    obtain ⟨e₂, h₂, -⟩ := bind_eq_ok_iff.mp hrest
    exact ⟨⟨e₁, h₁⟩, ⟨e₂, h₂⟩⟩
  · rintro ⟨⟨e₁, h₁⟩, ⟨e₂, h₂⟩⟩
    refine ⟨e₁ ++ e₂, bind_eq_ok_iff.mpr ⟨e₁, h₁, ?_⟩⟩
    exact bind_eq_ok_iff.mpr ⟨e₂, h₂, rfl⟩

theorem writable_word (k : Nat) (n : BitVec (8 * k)) : (word k).Writable n :=
  ⟨_, rfl⟩

theorem writable_byte (b : UInt8) : byte.Writable b :=
  ⟨_, rfl⟩

theorem writable_blob_iff {bs : Bytes} : blob.Writable bs ↔ bs.length < Nat.pow 2 32 := by
  constructor
  · rintro ⟨e, h⟩
    change (if bs.length < Nat.pow 2 32 then _ else _) = _ at h
    split at h
    · assumption
    · cases h
  · intro hlt
    exact ⟨_, if_pos hlt⟩

theorem writable_text_iff {s : String} :
    text.Writable s ↔ (Text.toBytes s).length < Nat.pow 2 32 :=
  writable_blob_iff

end Borsh.Layout

theorem Address.writable_layout (a : Address) : Address.layout.Writable a :=
  ⟨_, rfl⟩

namespace SwapOrder

open Borsh.Layout

/-- The texts and byte strings of an order. -/
def contents (order : SwapOrder) : List Bytes :=
  [Text.toBytes order.emitter, Text.toBytes order.srcNid, Text.toBytes order.dstNid,
    Text.toBytes order.creator, Text.toBytes order.destinationAddress, Text.toBytes order.token,
    Text.toBytes order.toToken, order.data]

theorem writable_layout_iff {order : SwapOrder} :
    SwapOrder.layout.Writable order ↔ ∀ c ∈ order.contents, c.length < Nat.pow 2 32 := by
  have hid := writable_word 16 order.id
  have hamount := writable_word 16 order.amount
  have htoAmount := writable_word 16 order.toAmount
  change (pair (word 16) _).Writable _ ↔ _
  simp only [writable_pair_iff, writable_text_iff, writable_blob_iff, hid, hamount, htoAmount,
    contents, List.forall_mem_cons, true_and]
  simp

end SwapOrder

end CrossSwap
