import CrossSwap.Proofs.Canonical.Boundary
import CrossSwap.Proofs.Relay.Entities

/-!
# Bytes of one shape

The four entities have different numbers of fields, so no byte string is accepted as two of them.
Bytes of an entity that are cut off, or that go on behind its end, are accepted as none.
-/

namespace CrossSwap.EntityKind

theorem fieldCount_injective {kind other : EntityKind}
    (h : Entity.fieldCount kind.Carrier = Entity.fieldCount other.Carrier) : kind = other := by
  revert h
  cases kind <;> cases other <;> decide

theorem decode_of_ne {kind other : EntityKind} {bs : Bytes} {a : kind.Carrier}
    (h : Entity.decode kind.Carrier bs = .ok a) (hne : other ≠ kind) :
    Entity.decode other.Carrier bs =
      .error (.fieldCount (Entity.name other.Carrier) (Entity.fieldCount other.Carrier)
        (Entity.fieldCount kind.Carrier)) :=
  Entity.decode_of_fieldCount_ne h fun hcount => hne (fieldCount_injective hcount).symm

/-- No byte string is accepted as two kinds, and the bytes of one kind, whose length is a word of
sixty-four bits, are refused as every other with the two numbers of fields. -/
theorem decode_one_kind :
    (∀ (bs : Bytes) (kind other : EntityKind) (a : kind.Carrier) (b : other.Carrier),
      Entity.decode kind.Carrier bs = .ok a → Entity.decode other.Carrier bs = .ok b →
        kind = other) ∧
    ∀ (kind other : EntityKind) (a : kind.Carrier), other ≠ kind →
      (Entity.encode a).length < Nat.pow 2 64 →
        Entity.decode other.Carrier (Entity.encode a) =
          .error (.fieldCount (Entity.name other.Carrier) (Entity.fieldCount other.Carrier)
            (Entity.fieldCount kind.Carrier)) := by
  constructor
  · intro bs kind other a b hkind hother
    -- The bytes may go on behind the fields, so they need not be an encoding of `a`.
    by_cases heq : other = kind
    · exact heq.symm
    · rw [decode_of_ne hkind heq] at hother
      cases hother
  · intro kind other a hne hlt
    exact decode_of_ne (Entity.decode_encode hlt) hne

/-- A cancellation is accepted with bytes left over inside its list; a fill carries the bytes of a
cancellation for its order. -/
theorem decode_one_kind_nested :
    let bs : Bytes := [0xC2, 0x80, 0xB8]
    let fill : OrderFill := ⟨1, [0xC1, 0x80], "s"⟩
    (∀ kind (a : kind.Carrier), Entity.decode kind.Carrier bs = .ok a → kind = orderCancel) ∧
      Entity.decode OrderCancel (Entity.encode fill) = .error (.fieldCount "OrderCancel" 1 3) ∧
      Entity.decode SwapOrder (Entity.encode fill) = .error (.fieldCount "SwapOrder" 11 3) := by
  intro bs fill
  obtain ⟨hone, hother⟩ := decode_one_kind
  have hcancel : Entity.decode OrderCancel bs = .ok ⟨[]⟩ := rfl
  refine ⟨fun kind a h => hone bs kind .orderCancel a (⟨[]⟩ : OrderCancel) h hcancel, ?_, ?_⟩
  · exact hother .orderFill .orderCancel fill (by decide) (by decide)
  · exact hother .orderFill .swapOrder fill (by decide) (by decide)

/-! ## Cut off and gone on -/

/-- Of an encoding that is cut off exactly the rest is missing, or one byte as long as its header is
not complete; behind one that is complete exactly the bytes that follow are too many.  So it is the
start of no other accepted bytes, of whatever kind. -/
theorem decode_exact_length (kind : EntityKind) (a : kind.Carrier)
    (hlt : (Entity.encode a).length < Nat.pow 2 64) :
    (∀ cut missing, Entity.encode a = cut ++ missing → missing ≠ [] →
      Entity.decode kind.Carrier cut =
        .error (.truncated (Entity.name kind.Carrier)
          (if (Entity.header a).length ≤ cut.length then missing.length else 1))) ∧
    (∀ behind, behind ≠ [] →
      Entity.decode kind.Carrier (Entity.encode a ++ behind) =
        .error (.trailingBytes (Entity.name kind.Carrier) behind.length)) ∧
    ∀ (bs : Bytes) (other : EntityKind) (b : other.Carrier),
      Entity.decode other.Carrier bs = .ok b → Entity.encode a <+: bs → bs = Entity.encode a := by
  refine ⟨?_, ?_, ?_⟩
  · intro cut missing hcut hne
    exact Entity.decode_of_cut hlt hcut hne
  · intro behind hne
    exact Entity.decode_encode_append hlt hne
  · intro bs other b hdecode hstart
    exact (Entity.eq_of_isPrefix_of_decode (Entity.decode_encode hlt) hdecode hstart).symm

/-- The header has two bytes, so a cut may lie inside it. -/
theorem decode_exact_length_long :
    let cancel : OrderCancel := ⟨List.replicate 60 7⟩
    Entity.encode cancel = [0xF8, 62, 0xB8, 60] ++ List.replicate 60 7 ∧
      Entity.decode OrderCancel [0xF8] = .error (.truncated "OrderCancel" 1) ∧
      Entity.decode OrderCancel [0xF8, 62] = .error (.truncated "OrderCancel" 62) ∧
      Entity.decode OrderCancel (Entity.encode cancel ++ [1, 2]) =
        .error (.trailingBytes "OrderCancel" 2) := by
  intro cancel
  have hbytes : Entity.encode cancel = [0xF8, 62, 0xB8, 60] ++ List.replicate 60 7 := by decide
  have hheader : (Entity.header (α := orderCancel.Carrier) cancel).length = 2 := by decide
  obtain ⟨hcut, hbehind, -⟩ := decode_exact_length .orderCancel cancel (by decide)
  have hone := hcut [0xF8] (62 :: 0xB8 :: 60 :: List.replicate 60 7) hbytes (by decide)
  have htwo := hcut [0xF8, 62] (0xB8 :: 60 :: List.replicate 60 7) hbytes (by decide)
  rw [hheader, if_neg (by decide)] at hone
  rw [hheader, if_pos (by decide)] at htwo
  exact ⟨hbytes, hone, htwo, hbehind [1, 2] (by decide)⟩

end CrossSwap.EntityKind
