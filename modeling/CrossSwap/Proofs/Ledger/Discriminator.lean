import Mathlib.Data.List.Nodup
import CrossSwap.Ledger.Event
import CrossSwap.Ledger.Instruction
import CrossSwap.Proofs.Outcome

/-!
# Telling kinds apart

Data that is long enough is a discriminator and a body.  A kind is found by its discriminator, and a
discriminator leads to no other kind than its own.
-/

namespace CrossSwap

section Tagged

variable {ε ε' : Type} {x : Except ε Bytes} {f : ε → ε'} {tag d : Bytes}

theorem tagged_eq_ok_iff :
    (x.mapError f >>= fun body => pure (tag ++ body)) = .ok d ↔
      ∃ body, x = .ok body ∧ d = tag ++ body := by
  simp only [bind_eq_ok_iff, mapError_eq_ok_iff, pure_eq_ok_iff]

theorem exists_tagged_iff :
    (∃ d, (x.mapError f >>= fun body => pure (tag ++ body)) = .ok d) ↔ ∃ body, x = .ok body := by
  simp only [tagged_eq_ok_iff]
  constructor
  · rintro ⟨d, body, hbody, -⟩
    exact ⟨body, hbody⟩
  · rintro ⟨body, hbody⟩
    exact ⟨tag ++ body, body, hbody, rfl⟩

end Tagged

theorem exists_eq_tag_append {d : Bytes} (h : ¬d.length < discriminatorSize) :
    ∃ tag body, tag.length = discriminatorSize ∧ d = tag ++ body := by
  refine ⟨d.take discriminatorSize, d.drop discriminatorSize, ?_, ?_⟩
  · rw [List.length_take]
    omega
  · exact (List.take_append_drop _ d).symm

theorem not_lt_discriminatorSize {tag : Bytes} (h : tag.length = discriminatorSize)
    (body : Bytes) : ¬(tag ++ body).length < discriminatorSize := by
  rw [List.length_append]
  omega

/-- A search by key finds the one member that has the key, as long as no two members share one. -/
theorem find?_key_eq_some_iff {α : Type} {key : α → Bytes} {kinds : List α}
    (hnodup : (kinds.map key).Nodup) {kind : α} {d : Bytes} :
    (kinds.find? fun k => key k == d) = some kind ↔ kind ∈ kinds ∧ key kind = d := by
  constructor
  · intro h
    have hkey := List.find?_some h
    exact ⟨List.mem_of_find?_eq_some h, beq_iff_eq.mp hkey⟩
  · rintro ⟨hmem, rfl⟩
    have hsome : (kinds.find? fun k => key k == key kind).isSome :=
      List.find?_isSome.mpr ⟨kind, hmem, beq_self_eq_true _⟩
    obtain ⟨found, hfound⟩ := Option.isSome_iff_exists.mp hsome
    have hmem' := List.mem_of_find?_eq_some hfound
    have hkey := List.find?_some hfound
    rw [hfound, List.inj_on_of_nodup_map hnodup hmem' hmem (beq_iff_eq.mp hkey)]

namespace InstructionKind

theorem mem_all (kind : InstructionKind) : kind ∈ all := by
  cases kind <;> decide

theorem nodup_discriminators : (all.map discriminator).Nodup := by
  decide +kernel

theorem ofDiscriminator?_eq_some_iff {kind : InstructionKind} {d : Bytes} :
    ofDiscriminator? d = some kind ↔ kind.discriminator = d := by
  rw [ofDiscriminator?, find?_key_eq_some_iff nodup_discriminators]
  exact and_iff_right kind.mem_all

theorem length_discriminator (kind : InstructionKind) :
    kind.discriminator.length = discriminatorSize :=
  CrossSwap.length_discriminator .global kind.name

end InstructionKind

namespace EventKind

theorem mem_all (kind : EventKind) : kind ∈ all := by
  cases kind <;> decide

theorem nodup_discriminators : (all.map discriminator).Nodup := by
  decide +kernel

theorem ofDiscriminator?_eq_some_iff {kind : EventKind} {d : Bytes} :
    ofDiscriminator? d = some kind ↔ kind.discriminator = d := by
  rw [ofDiscriminator?, find?_key_eq_some_iff nodup_discriminators]
  exact and_iff_right kind.mem_all

theorem length_discriminator (kind : EventKind) :
    kind.discriminator.length = discriminatorSize :=
  CrossSwap.length_discriminator .event kind.name

end EventKind

end CrossSwap
