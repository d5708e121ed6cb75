import CrossSwap.Proofs.Relay.Dispatch
import CrossSwap.Proofs.Resolve.Request

/-!
# A dispatcher beside the resolver

The resolver keeps no state, a dispatcher keeps the keys that it received.  On a message with a
fresh key the two agree, and a dispatcher's history matters to a message through nothing but its own
key.
-/

namespace CrossSwap

/-- What a message resolves to on its own. -/
def Program.resolveDelivery (program : Program) (delivery : Delivery) :
    Except ResolveError Resolved :=
  program.resolve
    (.receiveMessage delivery.signer delivery.key.srcNid delivery.key.connSn delivery.msg)
    delivery.snapshot

namespace Dispatcher

variable {d d' : Dispatcher} {delivery : Delivery} {r : Dispatched}

/-! ## One message -/

theorem resolveDelivery_of_decode {program : Program} {envelope : Envelope}
    (h : Envelope.decode delivery.key.srcNid delivery.key.connSn delivery.msg = .ok envelope) :
    program.resolveDelivery delivery =
      program.resolveEnvelope delivery.signer delivery.snapshot envelope delivery.msg := by
  rw [Program.resolveDelivery, Program.resolve, h]
  rfl

theorem route_of_decode {envelope : Envelope} (hfresh : d.isReceived delivery.key = false)
    (h : Envelope.decode delivery.key.srcNid delivery.key.connSn delivery.msg = .ok envelope) :
    d.route delivery =
      (d.program.resolveEnvelope delivery.signer delivery.snapshot envelope
        delivery.msg).mapError .resolve >>= fun instruction => .ok ⟨envelope, instruction⟩ := by
  have hcheck : d.guard.check delivery.key = .ok () := ReplayGuard.check_eq_ok_iff.mpr hfresh
  rw [route, hcheck, h]
  rfl

/-- A message with a fresh key is routed to the instruction that it resolves to, or refused for the
cause for which it does not resolve. -/
theorem map_instruction_route (hfresh : d.isReceived delivery.key = false) :
    (d.route delivery).map Dispatched.instruction =
      (d.program.resolveDelivery delivery).mapError .resolve := by
  cases hdecode : Envelope.decode delivery.key.srcNid delivery.key.connSn delivery.msg with
  | error e =>
      have hcheck : d.guard.check delivery.key = .ok () := ReplayGuard.check_eq_ok_iff.mpr hfresh
      rw [route, hcheck, Program.resolveDelivery, Program.resolve, hdecode]
      rfl
  | ok envelope =>
      rw [route_of_decode hfresh hdecode, resolveDelivery_of_decode hdecode]
      cases d.program.resolveEnvelope delivery.signer delivery.snapshot envelope delivery.msg with
      | error e => rfl
      | ok instruction => rfl

theorem route_eq_ok_iff_of_fresh (hfresh : d.isReceived delivery.key = false) :
    d.route delivery = .ok r ↔
      d.program.resolveDelivery delivery = .ok r.instruction ∧
        Envelope.decode delivery.key.srcNid delivery.key.connSn delivery.msg =
          .ok r.envelope := by
  rw [route_eq_ok_iff, Program.resolveDelivery, Program.resolve_receiveMessage_eq_ok_iff]
  constructor
  · rintro ⟨-, henvelope, hinstruction⟩
    exact ⟨⟨r.envelope, henvelope, hinstruction⟩, henvelope⟩
  · rintro ⟨⟨envelope, henvelope', hinstruction⟩, henvelope⟩
    rw [henvelope, Except.ok.injEq] at henvelope'
    subst henvelope'
    exact ⟨hfresh, henvelope, hinstruction⟩

theorem exists_route_eq_ok_iff {resolved : Resolved} (hfresh : d.isReceived delivery.key = false) :
    (∃ envelope, d.route delivery = .ok ⟨envelope, resolved⟩) ↔
      d.program.resolveDelivery delivery = .ok resolved := by
  constructor
  · rintro ⟨envelope, hroute⟩
    exact ((route_eq_ok_iff_of_fresh hfresh).mp hroute).1
  · intro hresolve
    obtain ⟨envelope, henvelope, -⟩ := Program.resolve_receiveMessage_eq_ok_iff.mp hresolve
    exact ⟨envelope, (route_eq_ok_iff_of_fresh hfresh).mpr ⟨hresolve, henvelope⟩⟩

theorem route_eq_error_iff {e : DispatchError} (hfresh : d.isReceived delivery.key = false) :
    d.route delivery = .error e ↔
      ∃ cause, d.program.resolveDelivery delivery = .error cause ∧ e = .resolve cause := by
  have hmap := map_instruction_route hfresh
  cases hroute : d.route delivery with
  | error e' =>
      rw [hroute] at hmap
      cases hresolve : d.program.resolveDelivery delivery with
      | error cause =>
          rw [hresolve] at hmap
          cases hmap
          simp [eq_comm]
      | ok resolved =>
          rw [hresolve] at hmap
          cases hmap
  | ok r =>
      rw [((route_eq_ok_iff_of_fresh hfresh).mp hroute).1]
      simp

/-- Two dispatchers of one program that agree on the key of a message route it alike. -/
theorem route_congr (hprogram : d.program = d'.program)
    (hreceived : d.isReceived delivery.key = d'.isReceived delivery.key) :
    d.route delivery = d'.route delivery := by
  have hcheck : d.guard.check delivery.key = d'.guard.check delivery.key := by
    rw [isReceived, isReceived] at hreceived
    rw [ReplayGuard.check, ReplayGuard.check, hreceived]
  rw [route, route, hcheck, hprogram]

/-! ## Runs -/

@[simp] theorem program_call (call : Call) : (d.call call).2.program = d.program := by
  cases call with
  | mark key => rfl
  | isReceived key => rfl
  | dispatch delivery =>
      cases hroute : d.route delivery with
      | error e => rw [call_of_route_error hroute]
      | ok r =>
          rw [call_of_route_ok hroute]
          rfl

@[simp] theorem program_after (calls : List Call) : (d.after calls).program = d.program := by
  induction calls generalizing d with
  | nil => rfl
  | cons call calls ih => rw [after_cons, ih, program_call]

/-- After every run, a message with a fresh key is dispatched exactly as the resolver alone resolves
it, successes and refusals alike, and of the run only what it did to that key matters. -/
theorem dispatch_iff_resolveDelivery (program : Program) (calls : List Call)
    (delivery : Delivery) :
    let d := (new program).after calls
    (d.isReceived delivery.key = false →
      (∀ r, (d.dispatch delivery).1 = .ok r ↔
        program.resolveDelivery delivery = .ok r.instruction ∧
          Envelope.decode delivery.key.srcNid delivery.key.connSn delivery.msg =
            .ok r.envelope) ∧
      (∀ resolved, (∃ envelope, (d.dispatch delivery).1 = .ok ⟨envelope, resolved⟩) ↔
        program.resolveDelivery delivery = .ok resolved) ∧
      (∀ e, (d.dispatch delivery).1 = .error (.resolve e) ↔
        program.resolveDelivery delivery = .error e) ∧
      ∀ e, (d.dispatch delivery).1 ≠ .error (.duplicate e)) ∧
    ∀ calls', ((new program).after calls').isReceived delivery.key = d.isReceived delivery.key →
      (((new program).after calls').dispatch delivery).1 = (d.dispatch delivery).1 := by
  intro d
  have hprogram : d.program = program := program_after calls
  constructor
  · intro hfresh
    rw [dispatch_fst, ← hprogram]
    refine ⟨fun r => route_eq_ok_iff_of_fresh hfresh, fun resolved => exists_route_eq_ok_iff hfresh,
      ?_, ?_⟩
    · intro e
      rw [route_eq_error_iff hfresh]
      simp
    · intro e
      rw [ne_eq, route_eq_error_iff hfresh]
      simp
  · intro calls' hreceived
    rw [dispatch_fst, dispatch_fst]
    apply route_congr
    · rw [hprogram]
      exact program_after calls'
    · exact hreceived

theorem dispatch_iff_resolveDelivery_retried :
    let program : Program := ⟨Address.associatedTokenProgram⟩
    let admin := Address.systemProgram
    let order : SwapOrder :=
      { id := 1, emitter := "", srcNid := "a", dstNid := "b", creator := "", destinationAddress := "",
        token := "", amount := 0, toToken := "", toAmount := 0, data := [] }
    let delivery : Delivery :=
      ⟨admin, ⟨admin, admin, "b", 0, 0, 0⟩, ⟨"a", 0⟩,
        Entity.encode (OrderMessage.cancel (.forOrder order))⟩
    let calls := [Call.mark ⟨"b", 0⟩, .dispatch { delivery with msg := [] }]
    ∃ envelope resolved, program.resolveDelivery delivery = .ok resolved ∧
      (((new program).after calls).dispatch delivery).1 = .ok ⟨envelope, resolved⟩ := by
  intro program admin order delivery calls
  obtain ⟨hfresh, -⟩ := dispatch_iff_resolveDelivery program calls delivery
  obtain ⟨-, hok, -⟩ := hfresh (by decide +kernel)
  have hresolves : (program.resolveDelivery delivery).isOk = true := by decide +kernel
  obtain ⟨resolved, hresolve⟩ := exists_eq_ok_of_isOk hresolves
  obtain ⟨envelope, hdispatch⟩ := (hok resolved).mpr hresolve
  exact ⟨envelope, resolved, hresolve, hdispatch⟩

end Dispatcher

end CrossSwap
