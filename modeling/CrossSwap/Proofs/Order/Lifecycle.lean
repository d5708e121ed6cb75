import CrossSwap.Order.Lifecycle

/-!
# What an order goes through

A new order accepts a fill or a cancellation, once, and behind it the resolution, once.  Whatever
else is tried on the way is refused and changes nothing.
-/

namespace CrossSwap

namespace OrderState

variable {state state' : OrderState} {event : OrderEvent} {e : TransitionError}

/-! ## One event -/

theorem apply_eq_ok_iff :
    state.apply event = .ok state' ↔
      (state = created ∧ event = .fill ∧ state' = filled) ∨
        (state = created ∧ event = .cancel ∧ state' = cancelled) ∨
          ((state = filled ∨ state = cancelled) ∧ event = .resolve ∧ state' = finished) := by
  cases state <;> cases event <;> simp [apply, eq_comm]

/-- A refusal says that the order is finished, or names the state and the event that do not fit. -/
theorem eq_of_apply_eq_error (h : state.apply event = .error e) :
    e = if state = finished then .alreadyFinished else .invalidTransition state event := by
  cases state <;> cases event <;> cases h <;> rfl

theorem isTerminal_iff : state.isTerminal = true ↔ state = finished :=
  beq_iff_eq

theorem next_of_ok (h : state.apply event = .ok state') : state.next event = state' := by
  rw [next, h]

theorem next_of_error (h : state.apply event = .error e) : state.next event = state := by
  rw [next, h]

/-! ## The events behind a state -/

/-- The accepted events that bring a new order to a state. -/
inductive LeadsTo : List OrderEvent → OrderState → Prop
  | created : LeadsTo [] created
  | filled : LeadsTo [.fill] filled
  | cancelled : LeadsTo [.cancel] cancelled
  | paidOut : LeadsTo [.fill, .resolve] finished
  | refunded : LeadsTo [.cancel, .resolve] finished

/-- A fill or a cancellation with its resolution, as far as it got. -/
def IsPath (history : List OrderEvent) : Prop :=
  history <+: [.fill, .resolve] ∨ history <+: [.cancel, .resolve]

instance {history : List OrderEvent} : Decidable (IsPath history) :=
  inferInstanceAs (Decidable (_ ∨ _))

namespace LeadsTo

variable {history : List OrderEvent}

theorem isPath (h : LeadsTo history state) : IsPath history := by
  cases h <;> decide

theorem not_fill_and_cancel (h : LeadsTo history state) :
    ¬(.fill ∈ history ∧ .cancel ∈ history) := by
  cases h <;> decide

theorem eq_finished_iff (h : LeadsTo history state) : state = finished ↔ history.length = 2 := by
  cases h <;> decide

theorem step (h : LeadsTo history state) (happly : state.apply event = .ok state') :
    LeadsTo (history ++ [event]) state' := by
  obtain ⟨rfl, rfl, rfl⟩ | ⟨rfl, rfl, rfl⟩ | ⟨rfl | rfl, rfl, rfl⟩ := apply_eq_ok_iff.mp happly
  · cases h
    exact .filled
  · cases h
    exact .cancelled
  · cases h
    exact .paidOut
  · cases h
    exact .refunded

/-- An event is accepted exactly when it goes on with the path that led to the state. -/
theorem isOk_apply_iff (h : LeadsTo history state) :
    (state.apply event).isOk = true ↔ IsPath (history ++ [event]) := by
  cases h <;> cases event <;> decide

end LeadsTo

/-! ## Runs -/

/-- The state after a list of events. -/
def after (state : OrderState) (events : List OrderEvent) : OrderState :=
  events.foldl next state

/-- The events of a list that are accepted, in order. -/
def accepted (state : OrderState) (events : List OrderEvent) : List OrderEvent :=
  ((events.zip (state.trace events)).filter fun p => p.2.1.isOk).map Prod.fst

@[simp] theorem accepted_nil : state.accepted [] = [] := rfl

theorem accepted_cons_of_ok {events : List OrderEvent} (h : state.apply event = .ok state') :
    state.accepted (event :: events) = event :: state'.accepted events := by
  have hok : (state.apply event).isOk = true := by rw [h]; rfl
  rw [accepted, trace, List.zip_cons_cons, List.filter_cons, if_pos hok, List.map_cons,
    next_of_ok h]
  rfl

theorem accepted_cons_of_error {events : List OrderEvent} (h : state.apply event = .error e) :
    state.accepted (event :: events) = state.accepted events := by
  have hrefused : ¬(state.apply event).isOk = true := by rw [h]; exact Bool.false_ne_true
  rw [accepted, trace, List.zip_cons_cons, List.filter_cons, if_neg hrefused, next_of_error h]
  rfl

theorem getElem?_trace (before : List OrderEvent) (event : OrderEvent) (later : List OrderEvent) :
    (state.trace (before ++ event :: later))[before.length]? =
      some ((state.after before).apply event, state.after (before ++ [event])) := by
  induction before generalizing state with
  | nil => rfl
  | cons first before ih => exact ih

theorem LeadsTo.run {history : List OrderEvent} (h : LeadsTo history state)
    (events : List OrderEvent) :
    LeadsTo (history ++ state.accepted events) (state.after events) := by
  induction events generalizing history state with
  | nil =>
      rw [accepted_nil, List.append_nil]
      exact h
  | cons event events ih =>
      rw [after, List.foldl_cons]
      cases happly : state.apply event with
      | error e =>
          rw [accepted_cons_of_error happly, next_of_error happly]
          exact ih h
      | ok state' =>
          rw [accepted_cons_of_ok happly, next_of_ok happly, List.append_cons]
          exact ih (h.step happly)

/-- Along every run of a new order the accepted events are a fill or a cancellation and then the
resolution, as far as the run got, so never both of the first two, and the order is finished exactly
when two events were accepted.  An event is accepted exactly when it goes on with that path.  A
refusal changes nothing; until the order is finished it names the state and the event, and from then
on every event is refused because of that. -/
theorem filled_or_cancelled_then_resolved (events : List OrderEvent) :
    (created.accepted events <+: [.fill, .resolve] ∨
        created.accepted events <+: [.cancel, .resolve]) ∧
      ¬(.fill ∈ created.accepted events ∧ .cancel ∈ created.accepted events) ∧
      (created.after events = finished ↔ (created.accepted events).length = 2) ∧
      ((created.after events).isTerminal = true ↔ (created.accepted events).length = 2) ∧
      ∀ before event later, events = before ++ event :: later →
        ∃ answer, (created.trace events)[before.length]? =
            some (answer, created.after (before ++ [event])) ∧
          (answer.isOk = true ↔ IsPath (created.accepted before ++ [event])) ∧
          (∀ e, answer = .error e → created.after (before ++ [event]) = created.after before) ∧
          ((created.accepted before).length < 2 →
            ∀ e, answer = .error e → e = .invalidTransition (created.after before) event) ∧
          ((created.accepted before).length = 2 → answer = .error .alreadyFinished) := by
  have hrun : LeadsTo (created.accepted events) (created.after events) := LeadsTo.created.run events
  refine ⟨hrun.isPath, hrun.not_fill_and_cancel, hrun.eq_finished_iff,
    isTerminal_iff.trans hrun.eq_finished_iff, ?_⟩
  rintro before event later rfl
  have hbefore : LeadsTo (created.accepted before) (created.after before) :=
    LeadsTo.created.run before
  refine ⟨_, getElem?_trace before event later, hbefore.isOk_apply_iff, ?_, ?_, ?_⟩
  · intro e happly
    rw [after, List.foldl_append]
    exact next_of_error happly
  · intro hlength e happly
    have hopen : created.after before ≠ finished := by
      rw [ne_eq, hbefore.eq_finished_iff]
      exact Nat.ne_of_lt hlength
    rw [eq_of_apply_eq_error happly, if_neg hopen]
  · intro hlength
    rw [hbefore.eq_finished_iff.mpr hlength]
    rfl

example : created.accepted [.resolve, .fill, .cancel, .fill, .resolve, .cancel] =
    [.fill, .resolve] := by
  decide

end OrderState

end CrossSwap
