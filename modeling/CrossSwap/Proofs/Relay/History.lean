import CrossSwap.Proofs.Relay.Replay
import Mathlib.Data.Finset.Card

/-!
# A guard and its history

Whatever a new guard is asked and offered, its answers depend on which keys it was offered before
and on nothing else, and it holds each of them once.
-/

namespace CrossSwap

namespace ReplayGuard

variable {guard : ReplayGuard} {key : ReplayKey} {call : Call}

/-! ## One call -/

/-- The key that a call recorded, as its answer shows. -/
def Call.accepted? : Call → Answer → Option ReplayKey
  | .accept key, .outcome (.ok _) => some key
  | _, _ => none

theorem map_accept : (guard.accept key).map (fun _ => ()) = guard.check key := by
  cases hcontains : guard.contains key with
  | true =>
      rw [accept, dif_pos hcontains, check_eq_error hcontains]
      rfl
  | false =>
      have hcheck : guard.check key = .ok () := check_eq_ok_iff.mpr hcontains
      obtain ⟨guard', haccept⟩ := exists_accept hcontains
      rw [haccept, hcheck]
      rfl

theorem keys_after :
    (guard.after call).keys = (call.accepted? (guard.answer call)).toList ++ guard.keys := by
  cases call with
  | contains key => rfl
  | check key => rfl
  | accept key =>
      rw [after, answer, map_accept]
      cases hcontains : guard.contains key with
      | true =>
          rw [insert_of_contains hcontains, check_eq_error hcontains]
          rfl
      | false =>
          have hcheck : guard.check key = .ok () := check_eq_ok_iff.mpr hcontains
          obtain ⟨guard', haccept⟩ := exists_accept hcontains
          rw [insert_of_accept haccept, hcheck]
          exact (accept_eq_ok_iff.mp haccept).2

theorem contains_after :
    (guard.after call).contains key = true ↔ guard.contains key = true ∨ .accept key = call := by
  cases call with
  | contains other => simp [after]
  | check other => simp [after]
  | accept other => rw [after, contains_insert, Call.accept.injEq, or_comm]

/-! ## Runs -/

/-- The guard after a list of calls. -/
def afterAll (guard : ReplayGuard) (calls : List Call) : ReplayGuard :=
  calls.foldl after guard

/-- The keys that a list of calls records, in order. -/
def accepted (guard : ReplayGuard) (calls : List Call) : List ReplayKey :=
  (calls.zip (guard.trace calls)).filterMap fun p => p.1.accepted? p.2.1

/-- The keys that a list of calls offers, in order and as often as they are offered. -/
def offered (calls : List Call) : List ReplayKey :=
  calls.filterMap fun
    | .accept key => some key
    | _ => none

theorem accepted_cons (calls : List Call) :
    guard.accepted (call :: calls) =
      (call.accepted? (guard.answer call)).toList ++ (guard.after call).accepted calls := by
  rw [accepted, trace, List.zip_cons_cons, List.filterMap_cons]
  cases call.accepted? (guard.answer call) with
  | none => rfl
  | some key => rfl

theorem mem_offered {calls : List Call} : key ∈ offered calls ↔ .accept key ∈ calls := by
  rw [offered, List.mem_filterMap]
  constructor
  · rintro ⟨call, hcall, hkey⟩
    cases call with
    | contains other => cases hkey
    | check other => cases hkey
    | accept other =>
        cases hkey
        exact hcall
  · intro hcall
    exact ⟨_, hcall, rfl⟩

theorem getElem?_trace (before : List Call) (call : Call) (later : List Call) :
    (guard.trace (before ++ call :: later))[before.length]? =
      some ((guard.afterAll before).answer call, guard.afterAll (before ++ [call])) := by
  induction before generalizing guard with
  | nil => rfl
  | cons first before ih => exact ih

theorem keys_afterAll (calls : List Call) :
    (guard.afterAll calls).keys = (guard.accepted calls).reverse ++ guard.keys := by
  induction calls generalizing guard with
  | nil => rfl
  | cons call calls ih =>
      have hone : (call.accepted? (guard.answer call)).toList.reverse =
          (call.accepted? (guard.answer call)).toList := by
        cases call.accepted? (guard.answer call) <;> rfl
      rw [afterAll, List.foldl_cons, accepted_cons, List.reverse_append, hone, List.append_assoc,
        ← keys_after]
      exact ih

theorem contains_afterAll (calls : List Call) :
    (guard.afterAll calls).contains key = true ↔
      guard.contains key = true ∨ .accept key ∈ calls := by
  induction calls generalizing guard with
  | nil => simp [afterAll]
  | cons call calls ih =>
      rw [List.mem_cons, ← or_assoc, ← contains_after]
      exact ih

/-! ## Runs of a new guard -/

theorem contains_afterAll_empty (calls : List Call) :
    (empty.afterAll calls).contains key = decide (.accept key ∈ calls) := by
  have hnew : empty.contains key = false := rfl
  rw [Bool.eq_iff_iff, contains_afterAll, hnew, decide_eq_true_iff]
  simp

theorem mem_keys_afterAll_empty {calls : List Call} :
    key ∈ (empty.afterAll calls).keys ↔ .accept key ∈ calls := by
  have hcontains : (empty.afterAll calls).keys.contains key = decide (.accept key ∈ calls) :=
    contains_afterAll_empty calls
  rw [← List.contains_iff_mem, hcontains, decide_eq_true_iff]

theorem keys_afterAll_empty (calls : List Call) :
    (empty.afterAll calls).keys = (empty.accepted calls).reverse := by
  rw [keys_afterAll]
  exact List.append_nil _

theorem size_afterAll_empty (calls : List Call) :
    (empty.afterAll calls).size = (offered calls).toFinset.card := by
  have hsame : (empty.afterAll calls).keys.toFinset = (offered calls).toFinset := by
    ext key
    rw [List.mem_toFinset, List.mem_toFinset, mem_keys_afterAll_empty, mem_offered]
  rw [size, ← hsame, List.toFinset_card_of_nodup (empty.afterAll calls).nodup]

theorem isEmpty_afterAll_empty_iff (calls : List Call) :
    (empty.afterAll calls).isEmpty = true ↔ offered calls = [] := by
  rw [isEmpty, List.isEmpty_iff, List.eq_nil_iff_forall_not_mem, List.eq_nil_iff_forall_not_mem]
  simp only [mem_keys_afterAll_empty, mem_offered]

/-- The answer to a call that follows other calls of a new guard: a key that was offered by one of
them is present, and refused as a duplicate of itself. -/
def Call.answerBehind (before : List Call) : Call → Answer
  | .contains key => .present (decide (.accept key ∈ before))
  | .check key | .accept key =>
    .outcome (if .accept key ∈ before then .error ⟨key⟩ else .ok ())

theorem answer_afterAll_empty (before : List Call) (call : Call) :
    (empty.afterAll before).answer call = call.answerBehind before := by
  have hcheck (key : ReplayKey) : (empty.afterAll before).check key =
      if .accept key ∈ before then .error ⟨key⟩ else .ok () := by
    rw [check, contains_afterAll_empty]
    simp only [decide_eq_true_iff]
  cases call with
  | contains key => rw [answer, contains_afterAll_empty, Call.answerBehind]
  | check key => rw [answer, hcheck, Call.answerBehind]
  | accept key => rw [answer, map_accept, hcheck, Call.answerBehind]

/-- Along every run of a new guard each call is answered by whether its key was offered before: a
key is accepted exactly when it was not, questions report just that, and every refusal names the key
it is about.  Questions and refused keys leave the guard as it is.  The guard holds as many keys as
were accepted, which are the different keys that were offered. -/
theorem answered_from_history (calls : List Call) :
    (∀ before call later, calls = before ++ call :: later →
      (empty.trace calls)[before.length]? =
          some (call.answerBehind before, empty.afterAll (before ++ [call])) ∧
        ((∀ key, call ≠ .accept key) ∨ call ∈ before →
          empty.afterAll (before ++ [call]) = empty.afterAll before)) ∧
      (∀ key, key ∈ empty.accepted calls ↔ .accept key ∈ calls) ∧
      (empty.afterAll calls).size = (empty.accepted calls).length ∧
      (empty.afterAll calls).size = (offered calls).toFinset.card ∧
      ((empty.afterAll calls).isEmpty = true ↔ offered calls = []) := by
  refine ⟨?_, ?_, ?_, size_afterAll_empty calls, isEmpty_afterAll_empty_iff calls⟩
  · rintro before call later rfl
    rw [getElem?_trace, answer_afterAll_empty]
    refine ⟨rfl, ?_⟩
    intro hcall
    rw [afterAll, List.foldl_append]
    cases call with
    | contains key => rfl
    | check key => rfl
    | accept key =>
        have hbefore : .accept key ∈ before := hcall.resolve_left fun hquestion => hquestion key rfl
        apply insert_of_contains
        exact (contains_afterAll before).mpr (.inr hbefore)
  · intro key
    rw [← mem_keys_afterAll_empty, keys_afterAll_empty, List.mem_reverse]
  · rw [size, keys_afterAll_empty, List.length_reverse]

end ReplayGuard

end CrossSwap
