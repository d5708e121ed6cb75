import CrossSwap.Bytes

/-!
# Steps with a range

A computation whose numbers have to stay in a range is written once, for any way of treating the
conditions of its steps.  Where they are ignored, words wrap around and windows of a list are cut
short; where they are enforced, the first step that leaves its range ends the computation.
-/

namespace CrossSwap

/-- What is done with the result of a step and the condition that it comes with. -/
structure RangeCheck (m : Type → Type) where
  step : {α : Type} → (p : Prop) → [Decidable p] → α → m α

namespace RangeCheck

def ignored : RangeCheck Id where
  step _ _ a := pure a

def enforced : RangeCheck Option where
  step p _ a := if p then some a else none

section Steps

variable {m : Type → Type} (check : RangeCheck m)

def mul (a b : Word128) : m Word128 :=
  check.step (¬a.umulOverflow b) (a * b)

def add (a b : Word128) : m Word128 :=
  check.step (¬a.uaddOverflow b) (a + b)

def sub (a b : Word128) : m Word128 :=
  check.step (¬a.usubOverflow b) (a - b)

/-- The number before one that is not zero. -/
def pred (n : Nat) : m Nat :=
  check.step (0 < n) (n - 1)

/-- A number of places in a list, which has to fit 64 bits. -/
def places (n : Nat) : m Nat :=
  check.step (n < Nat.pow 2 64) n

/-- The members from `start` up to `stop`, which both have to lie within the list. -/
def slice {α : Type} (xs : List α) (start stop : Nat) : m (List α) :=
  check.step (start ≤ stop ∧ stop ≤ xs.length) ((xs.drop start).take (stop - start))

end Steps

variable {α : Type} {p : Prop} [Decidable p]

@[simp] theorem ignored_step (a : α) : ignored.step p a = pure a := rfl

@[simp] theorem enforced_step_eq_some_iff {a b : α} :
    enforced.step p a = some b ↔ p ∧ a = b := by
  by_cases h : p
  · simp [enforced, h]
  · simp [enforced, h]

end RangeCheck

end CrossSwap
