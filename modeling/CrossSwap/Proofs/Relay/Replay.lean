import CrossSwap.Proofs.Outcome
import CrossSwap.Relay.Replay

/-!
# What a guard knows

A guard accepts a key exactly when it has not seen it, and from then on contains it; nothing else
about it changes.
-/

namespace CrossSwap

namespace ReplayGuard

variable {guard guard' : ReplayGuard} {key other : ReplayKey}

theorem check_eq_ok_iff {u : Unit} : guard.check key = .ok u ↔ guard.contains key = false := by
  rw [check]
  cases guard.contains key with
  | true => simp
  | false => simp

theorem check_eq_error (h : guard.contains key = true) : guard.check key = .error ⟨key⟩ := by
  rw [check, if_pos h]

theorem accept_eq_ok_iff :
    guard.accept key = .ok guard' ↔
      guard.contains key = false ∧ guard'.keys = key :: guard.keys := by
  rw [accept]
  split
  · rename_i hcontains
    simp [hcontains]
  · rename_i hcontains
    rw [Bool.not_eq_true] at hcontains
    constructor
    · intro h
      cases h
      exact ⟨hcontains, rfl⟩
    · rintro ⟨-, hkeys⟩
      obtain ⟨keys, hnodup⟩ := guard'
      cases hkeys
      rfl

theorem exists_accept (h : guard.contains key = false) : ∃ guard', guard.accept key = .ok guard' := by
  rw [accept, dif_neg (Bool.not_eq_true _ ▸ h)]
  exact ⟨_, rfl⟩

theorem contains_of_accept (h : guard.accept key = .ok guard') :
    guard'.contains other = true ↔ other = key ∨ guard.contains other = true := by
  obtain ⟨-, hkeys⟩ := accept_eq_ok_iff.mp h
  simp [contains, hkeys]

theorem insert_of_accept (h : guard.accept key = .ok guard') : guard.insert key = guard' := by
  rw [insert, h]
  rfl

/-- Offering a key to a guard that has seen it changes nothing. -/
theorem insert_of_contains (h : guard.contains key = true) : guard.insert key = guard := by
  rw [insert, accept, dif_pos h]
  rfl

theorem contains_insert :
    (guard.insert key).contains other = true ↔ other = key ∨ guard.contains other = true := by
  cases hcontains : guard.contains key with
  | true =>
      rw [insert_of_contains hcontains]
      constructor
      · exact Or.inr
      · rintro (rfl | hother)
        · exact hcontains
        · exact hother
  | false =>
      obtain ⟨guard', haccept⟩ := exists_accept hcontains
      rw [insert_of_accept haccept]
      exact contains_of_accept haccept

end ReplayGuard

end CrossSwap
