import CrossSwap.Proofs.Outcome
import CrossSwap.Resolve.Error

/-!
# Conditions in a row

Checks that stand behind one another refuse for the first that fails.  A list of conditions, each
with its error, says the same without the values that the checks compute, and is put together from
the lists of the parts as the checks are.
-/

namespace CrossSwap

/-- What a request has to meet, and the error if it does not. -/
structure Condition where
  met : Bool
  error : ResolveError
  deriving DecidableEq, Repr

/-- The error of the first condition that is not met. -/
def firstRefusal : List Condition → Option ResolveError
  | [] => none
  | c :: cs => if c.met then firstRefusal cs else some c.error

theorem firstRefusal_eq_none_iff {cs : List Condition} :
    firstRefusal cs = none ↔ ∀ c ∈ cs, c.met = true := by
  induction cs with
  | nil => simp [firstRefusal]
  | cons c cs ih =>
      by_cases hmet : c.met = true
      · simp [firstRefusal, hmet, ih]
      · simp [firstRefusal, hmet]

theorem firstRefusal_append (cs ds : List Condition) :
    firstRefusal (cs ++ ds) = (firstRefusal cs).or (firstRefusal ds) := by
  induction cs with
  | nil => rfl
  | cons c cs ih =>
      by_cases hmet : c.met = true
      · simp [firstRefusal, hmet, ih]
      · simp [firstRefusal, hmet]

variable {α β : Type} {cs ds : List Condition} {c : Condition} {x : Except ResolveError α}
  {f : α → Except ResolveError β} {e : ResolveError}

/-- The outcome is a value if all conditions are met, and otherwise the error of the first that is
not. -/
inductive DecidedBy (cs : List Condition) : Except ResolveError α → Prop
  | met (a : α) (h : firstRefusal cs = none) : DecidedBy cs (.ok a)
  | refused (e : ResolveError) (h : firstRefusal cs = some e) : DecidedBy cs (.error e)

namespace DecidedBy

theorem eq_error_iff (h : DecidedBy cs x) : x = .error e ↔ firstRefusal cs = some e := by
  cases h with
  | met a hnone => simp [hnone]
  | refused e' hsome => simp [hsome]

theorem exists_ok_iff (h : DecidedBy cs x) : (∃ a, x = .ok a) ↔ ∀ c ∈ cs, c.met = true := by
  rw [← firstRefusal_eq_none_iff]
  cases h with
  | met a hnone => simp [hnone]
  | refused e hsome => simp [hsome]

theorem of_exists_ok (h : ∃ a, x = .ok a) : DecidedBy [] x := by
  obtain ⟨a, rfl⟩ := h
  exact .met a rfl

theorem pure (a : α) : DecidedBy [] (pure a : Except ResolveError α) :=
  .met a rfl

theorem of_firstRefusal_eq (h : DecidedBy ds x) (heq : firstRefusal cs = firstRefusal ds) :
    DecidedBy cs x := by
  cases h with
  | met a hnone => exact .met a (heq.trans hnone)
  | refused e hsome => exact .refused e (heq.trans hsome)

/-- What stands behind a computation is reached only with a value of it. -/
theorem bind (hx : DecidedBy cs x) (hf : ∀ a, x = .ok a → DecidedBy ds (f a)) :
    DecidedBy (cs ++ ds) (x >>= f) := by
  cases hx with
  | refused e hsome =>
      apply DecidedBy.refused
      rw [firstRefusal_append, hsome, Option.some_or]
  | met a hnone =>
      have hfirst : firstRefusal (cs ++ ds) = firstRefusal ds := by
        rw [firstRefusal_append, hnone, Option.none_or]
      exact (hf a rfl).of_firstRefusal_eq hfirst

theorem cons (hx : DecidedBy [c] x) (hf : ∀ a, x = .ok a → DecidedBy cs (f a)) :
    DecidedBy (c :: cs) (x >>= f) :=
  bind hx hf

/-- A step that always gives a value adds no condition. -/
theorem skip (hx : ∃ a, x = .ok a) (hf : ∀ a, x = .ok a → DecidedBy cs (f a)) :
    DecidedBy cs (x >>= f) :=
  bind (of_exists_ok hx) hf

/-- Nor does what always gives a value behind the last check. -/
theorem map (hx : DecidedBy cs x) (hf : ∀ a, ∃ b, f a = .ok b) : DecidedBy cs (x >>= f) := by
  have h := bind hx fun a _ => of_exists_ok (hf a)
  rw [List.append_nil] at h
  exact h

theorem require {p : Prop} [Decidable p] (hmet : c.met = true ↔ p) :
    DecidedBy [c] (require p c.error) := by
  by_cases hp : p
  · rw [CrossSwap.require, if_pos hp]
    apply DecidedBy.met
    rw [firstRefusal, if_pos (hmet.mpr hp), firstRefusal]
  · rw [CrossSwap.require, if_neg hp]
    apply DecidedBy.refused
    rw [firstRefusal, if_neg fun h => hp (hmet.mp h)]

end DecidedBy

end CrossSwap
