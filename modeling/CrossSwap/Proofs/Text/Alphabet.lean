import Mathlib.Data.List.Nodup

/-!
# Letters of an alphabet

A digit is written by the letter at its place, and a letter that stands at one place only is read as
the digit that it was written for.
-/

namespace CrossSwap.Text

variable {letters : List Char} {fallback c : Char} {n : Nat}

theorem getD_letter (hlt : n < letters.length) : letters.getD n fallback = letters[n] := by
  rw [List.getD_eq_getElem?_getD, List.getElem?_eq_getElem hlt, Option.getD_some]

theorem findIdx?_letter_eq_some_iff (hnodup : letters.Nodup) :
    letters.findIdx? (· == c) = some n ↔ n < letters.length ∧ c = letters.getD n fallback := by
  constructor
  · intro h
    obtain ⟨hlt, hc, -⟩ := List.findIdx?_eq_some_iff_getElem.mp h
    refine ⟨hlt, ?_⟩
    rw [getD_letter hlt]
    exact (beq_iff_eq.mp hc).symm
  · rintro ⟨hlt, rfl⟩
    rw [getD_letter hlt]
    apply List.findIdx?_eq_some_iff_getElem.mpr
    refine ⟨hlt, beq_self_eq_true _, ?_⟩
    intro m hm hsame
    have hplace : m = n := hnodup.getElem_inj_iff.mp (beq_iff_eq.mp hsame)
    omega

section Reading

variable {digit? : Char → Option Nat} {symbol : Nat → Char} {base : Nat}

/-- A text is read as digits exactly when it is written in them. -/
theorem mapM_digit?_eq_some_iff
    (hdigit : ∀ c d, digit? c = some d ↔ d < base ∧ c = symbol d) {cs : List Char} {ds : List Nat} :
    cs.mapM digit? = some ds ↔ (∀ d ∈ ds, d < base) ∧ cs = ds.map symbol := by
  induction cs generalizing ds with
  | nil =>
      constructor
      · intro h
        cases h
        exact ⟨List.forall_mem_nil _, rfl⟩
      · rintro ⟨-, h⟩
        rw [List.map_eq_nil_iff.mp h.symm]
        rfl
  | cons c cs ih =>
      simp only [List.mapM_cons, Option.bind_eq_bind, Option.bind_eq_some_iff, hdigit, ih]
      constructor
      · rintro ⟨d, ⟨hd, rfl⟩, ds', ⟨hds, rfl⟩, h⟩
        cases h
        exact ⟨List.forall_mem_cons.mpr ⟨hd, hds⟩, rfl⟩
      · rintro ⟨hlt, h⟩
        cases ds with
        | nil => cases h
        | cons d ds =>
            obtain ⟨hc, hcs⟩ := List.cons.inj h
            obtain ⟨hd, hds⟩ := List.forall_mem_cons.mp hlt
            exact ⟨d, ⟨hd, hc⟩, ds, ⟨hds, hcs⟩, rfl⟩

end Reading

end CrossSwap.Text
