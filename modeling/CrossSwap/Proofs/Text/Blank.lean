import Mathlib.Data.List.Basic
import CrossSwap.Text.Blank

/-!
# Blanks around a text

A text is what trimming leaves of it between two runs of blanks, and what has no blank in it is left
as it is.
-/

namespace CrossSwap.Text

def IsBlankRun (cs : List Char) : Prop :=
  ∀ c ∈ cs, isBlank c = true

theorem IsBlankRun.reverse {cs : List Char} (h : IsBlankRun cs) : IsBlankRun cs.reverse :=
  fun c hc => h c (List.mem_reverse.mp hc)

theorem isBlankRun_takeWhile (cs : List Char) : IsBlankRun (cs.takeWhile isBlank) :=
  List.all_eq_true.mp List.all_takeWhile

theorem dropWhile_isBlank_append {front rest : List Char} (hfront : IsBlankRun front)
    (hrest : ∀ c, rest.head? = some c → isBlank c = false) :
    (front ++ rest).dropWhile isBlank = rest := by
  rw [List.dropWhile_append_of_pos hfront]
  cases rest with
  | nil => rfl
  | cons c cs => exact List.dropWhile_cons_of_neg (Bool.eq_false_iff.mp (hrest c rfl))

theorem trim_append {front cs back : List Char} (hfront : IsBlankRun front)
    (hback : IsBlankRun back) (hcs : ∀ c ∈ cs, isBlank c = false) :
    trim (front ++ cs ++ back) = cs := by
  cases cs with
  | nil =>
      have hall : IsBlankRun (front ++ back) := List.forall_mem_append.mpr ⟨hfront, hback⟩
      have hnone : (front ++ back ++ []).dropWhile isBlank = [] := by
        apply dropWhile_isBlank_append hall
        intro c hc
        cases hc
      rw [List.append_nil] at hnone
      rw [List.append_nil, trim, hnone]
      rfl
  | cons c rest =>
      have hstart : (front ++ (c :: rest) ++ back).dropWhile isBlank = (c :: rest) ++ back := by
        rw [List.append_assoc]
        apply dropWhile_isBlank_append hfront
        intro first hfirst
        cases hfirst
        exact hcs c List.mem_cons_self
      have hend : ((c :: rest) ++ back).reverse.dropWhile isBlank = (c :: rest).reverse := by
        rw [List.reverse_append]
        apply dropWhile_isBlank_append hback.reverse
        intro last hlast
        exact hcs last (List.mem_reverse.mp (List.mem_of_head? hlast))
      rw [trim, hstart, hend, List.reverse_reverse]

theorem exists_eq_append_trim (cs : List Char) :
    ∃ front back, IsBlankRun front ∧ IsBlankRun back ∧ cs = front ++ trim cs ++ back := by
  let rest := cs.dropWhile isBlank
  refine ⟨cs.takeWhile isBlank, (rest.reverse.takeWhile isBlank).reverse,
    isBlankRun_takeWhile cs, (isBlankRun_takeWhile rest.reverse).reverse, ?_⟩
  have hrest : rest = trim cs ++ (rest.reverse.takeWhile isBlank).reverse := by
    rw [trim, ← List.reverse_append, List.takeWhile_append_dropWhile, List.reverse_reverse]
  rw [List.append_assoc, ← hrest, List.takeWhile_append_dropWhile]

end CrossSwap.Text
