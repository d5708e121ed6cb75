import CrossSwap.Proofs.Relay.Replay
import CrossSwap.Relay.Dispatch

/-!
# Messages are routed at most once

Along any run of a dispatcher a key is received from the moment that it is marked or that a message
with it is routed.  A received key stays received and no message with it is routed again.
-/

namespace CrossSwap

namespace Dispatcher

variable {d : Dispatcher} {key : ReplayKey} {delivery : Delivery} {r : Dispatched}

/-! ## One call -/

theorem isReceived_markReceived {other : ReplayKey} :
    (d.markReceived key).isReceived other = true ↔ other = key ∨ d.isReceived other = true :=
  ReplayGuard.contains_insert

theorem route_eq_ok_iff :
    d.route delivery = .ok r ↔
      d.isReceived delivery.key = false ∧
        Envelope.decode delivery.key.srcNid delivery.key.connSn delivery.msg = .ok r.envelope ∧
          d.program.resolveEnvelope delivery.signer delivery.snapshot r.envelope delivery.msg =
            .ok r.instruction := by
  simp only [route, bind_eq_ok_iff, mapError_eq_ok_iff, ReplayGuard.check_eq_ok_iff, pure_eq_ok_iff,
    exists_const]
  constructor
  · rintro ⟨hfresh, envelope, henvelope, instruction, hinstruction, rfl⟩
    exact ⟨hfresh, henvelope, hinstruction⟩
  · rintro ⟨hfresh, henvelope, hinstruction⟩
    exact ⟨hfresh, r.envelope, henvelope, r.instruction, hinstruction, rfl⟩

/-- A message whose key was received is refused as such before its bytes are looked at. -/
theorem route_of_isReceived (h : d.isReceived delivery.key = true) :
    d.route delivery = .error (.duplicate ⟨delivery.key⟩) := by
  rw [route, ReplayGuard.check_eq_error h]
  rfl

theorem dispatch_of_route_error {e : DispatchError} (h : d.route delivery = .error e) :
    d.dispatch delivery = (.error e, d) := by
  rw [dispatch, h]

/-- What was checked before the message was read still holds when its key is recorded. -/
theorem dispatch_of_route_ok (h : d.route delivery = .ok r) :
    d.dispatch delivery = (.ok r, d.markReceived delivery.key) := by
  obtain ⟨hfresh, -⟩ := route_eq_ok_iff.mp h
  obtain ⟨guard, haccept⟩ := ReplayGuard.exists_accept hfresh
  have hinsert := ReplayGuard.insert_of_accept haccept
  rw [dispatch, h, markReceived, hinsert]
  simp only [haccept]

theorem call_of_route_error {e : DispatchError} (h : d.route delivery = .error e) :
    (d.call (.dispatch delivery)).2 = d :=
  congrArg Prod.snd (dispatch_of_route_error h)

theorem call_of_route_ok (h : d.route delivery = .ok r) :
    (d.call (.dispatch delivery)).2 = d.markReceived delivery.key :=
  congrArg Prod.snd (dispatch_of_route_ok h)

theorem dispatch_fst : (d.dispatch delivery).1 = d.route delivery := by
  cases hroute : d.route delivery with
  | error e => rw [dispatch_of_route_error hroute]
  | ok r => rw [dispatch_of_route_ok hroute]

/-- The key of the message that a call routed, as its answer shows. -/
def Call.routed? : Call → Answer → Option ReplayKey
  | .dispatch delivery, .dispatched (.ok _) => some delivery.key
  | _, _ => none

theorem routed?_dispatch_eq_some_iff :
    (Call.dispatch delivery).routed? (d.call (.dispatch delivery)).1 = some key ↔
      delivery.key = key ∧ ∃ r, d.route delivery = .ok r := by
  have hanswer : (d.call (.dispatch delivery)).1 = .dispatched (d.route delivery) := by
    rw [← dispatch_fst]
    rfl
  rw [hanswer]
  cases d.route delivery with
  | error e => simp [Call.routed?]
  | ok r => simp [Call.routed?]

/-- Only a call that marks a key or routes a message with it changes whether it is received. -/
theorem isReceived_call (call : Call) :
    (d.call call).2.isReceived key = true ↔
      d.isReceived key = true ∨ call = .mark key ∨ call.routed? (d.call call).1 = some key := by
  cases call with
  | mark other =>
      have hmark : (d.call (.mark other)).2 = d.markReceived other := rfl
      rw [hmark, isReceived_markReceived]
      constructor
      · rintro (rfl | hbefore)
        · exact .inr (.inl rfl)
        · exact .inl hbefore
      · rintro (hbefore | hcall | hrouted)
        · exact .inr hbefore
        · cases hcall
          exact .inl rfl
        · cases hrouted
  | isReceived other =>
      have hsame : (d.call (.isReceived other)).2 = d := rfl
      rw [hsame]
      simp [Call.routed?]
  | dispatch delivery =>
      rw [routed?_dispatch_eq_some_iff]
      cases hroute : d.route delivery with
      | error e =>
          rw [call_of_route_error hroute]
          simp
      | ok r =>
          rw [call_of_route_ok hroute, isReceived_markReceived]
          constructor
          · rintro (rfl | hbefore)
            · exact .inr (.inr ⟨rfl, r, rfl⟩)
            · exact .inl hbefore
          · rintro (hbefore | hcall | ⟨rfl, -⟩)
            · exact .inr hbefore
            · cases hcall
            · exact .inl rfl

/-- A message is routed only while its key is not received. -/
theorem not_isReceived_of_routed? {call : Call} (h : call.routed? (d.call call).1 = some key) :
    d.isReceived key = false := by
  cases call with
  | mark other => cases h
  | isReceived other => cases h
  | dispatch delivery =>
      obtain ⟨rfl, r, hroute⟩ := routed?_dispatch_eq_some_iff.mp h
      exact (route_eq_ok_iff.mp hroute).1

/-! ## Runs -/

/-- The dispatcher after a list of calls. -/
def after (d : Dispatcher) (calls : List Call) : Dispatcher :=
  ((d.trace calls).map Prod.snd).getLastD d

/-- The keys of the messages that a list of calls routes, in order. -/
def routed (d : Dispatcher) (calls : List Call) : List ReplayKey :=
  (calls.zip (d.trace calls)).filterMap fun p => p.1.routed? p.2.1

@[simp] theorem after_nil : d.after [] = d := rfl

@[simp] theorem after_cons (call : Call) (calls : List Call) :
    d.after (call :: calls) = (d.call call).2.after calls := by
  rw [after, trace, List.map_cons, List.getLastD_cons]
  rfl

@[simp] theorem routed_nil : d.routed [] = [] := rfl

theorem routed_cons (call : Call) (calls : List Call) :
    d.routed (call :: calls) =
      (call.routed? (d.call call).1).toList ++ (d.call call).2.routed calls := by
  rw [routed, trace, List.zip_cons_cons, List.filterMap_cons]
  cases call.routed? (d.call call).1 with
  | none => rfl
  | some key => rfl

theorem routed_append (before later : List Call) :
    d.routed (before ++ later) = d.routed before ++ (d.after before).routed later := by
  induction before generalizing d with
  | nil => rfl
  | cons call before ih =>
      rw [List.cons_append, routed_cons, routed_cons, ih, after_cons, List.append_assoc]

theorem isReceived_after (calls : List Call) :
    (d.after calls).isReceived key = true ↔
      d.isReceived key = true ∨ Call.mark key ∈ calls ∨ key ∈ d.routed calls := by
  induction calls generalizing d with
  | nil => simp
  | cons call calls ih =>
      rw [after_cons, ih, isReceived_call, routed_cons, List.mem_cons, List.mem_append,
        Option.mem_toList]
      constructor
      · rintro ((hbefore | rfl | hcall) | hlater | hlater)
        · exact .inl hbefore
        · exact .inr (.inl (.inl rfl))
        · exact .inr (.inr (.inl hcall))
        · exact .inr (.inl (.inr hlater))
        · exact .inr (.inr (.inr hlater))
      · rintro (hbefore | (rfl | hlater) | hcall | hlater)
        · exact .inl (.inl hbefore)
        · exact .inl (.inr (.inl rfl))
        · exact .inr (.inl hlater)
        · exact .inl (.inr (.inr hcall))
        · exact .inr (.inr hlater)

/-- No message is routed whose key was received before. -/
theorem not_mem_routed (calls : List Call) (h : d.isReceived key = true) :
    key ∉ d.routed calls := by
  induction calls generalizing d with
  | nil => exact List.not_mem_nil
  | cons call calls ih =>
      rw [routed_cons, List.mem_append, Option.mem_toList]
      rintro (hcall | hlater)
      · rw [not_isReceived_of_routed? hcall] at h
        cases h
      · exact ih ((isReceived_call call).mpr (.inl h)) hlater

theorem nodup_routed (calls : List Call) : (d.routed calls).Nodup := by
  induction calls generalizing d with
  | nil => exact List.nodup_nil
  | cons call calls ih =>
      rw [routed_cons]
      cases hcall : call.routed? (d.call call).1 with
      | none => exact ih
      | some key =>
          have hreceived : (d.call call).2.isReceived key = true := by
            exact (isReceived_call call).mpr (.inr (.inr hcall))
          exact List.nodup_cons.mpr ⟨not_mem_routed calls hreceived, ih⟩

/-- Along every run a key is received exactly when it was marked or routed, and it is routed at most
once and never after it was marked.  A message with a received key is refused as a duplicate,
whatever comes with it, and a message that is refused changes nothing. -/
theorem routed_at_most_once (program : Program) (calls : List Call) :
    (∀ key, ((new program).after calls).isReceived key = true ↔
        Call.mark key ∈ calls ∨ key ∈ (new program).routed calls) ∧
      ((new program).routed calls).Nodup ∧
      (∀ before later, calls = before ++ later →
        (new program).routed calls =
            (new program).routed before ++ ((new program).after before).routed later ∧
          ∀ key, Call.mark key ∈ before → key ∉ ((new program).after before).routed later) ∧
      (∀ delivery, ((new program).after calls).isReceived delivery.key = true →
        ((new program).after calls).dispatch delivery =
          (.error (.duplicate ⟨delivery.key⟩), (new program).after calls)) ∧
      ∀ delivery e d, ((new program).after calls).dispatch delivery = (.error e, d) →
        d = (new program).after calls := by
  refine ⟨?_, nodup_routed calls, ?_, ?_, ?_⟩
  · intro key
    have hnew : (new program).isReceived key = false := rfl
    rw [isReceived_after, hnew]
    simp
  · rintro before later rfl
    refine ⟨routed_append before later, ?_⟩
    intro key hmark
    apply not_mem_routed
    exact (isReceived_after before).mpr (.inr (.inl hmark))
  · intro delivery hreceived
    exact dispatch_of_route_error (route_of_isReceived hreceived)
  · intro delivery e d hdispatch
    have hroute : ((new program).after calls).route delivery = .error e := by
      rw [← dispatch_fst, hdispatch]
    rw [dispatch_of_route_error hroute] at hdispatch
    cases hdispatch
    rfl

end Dispatcher

end CrossSwap
