import CrossSwap.Proofs.Resolve.Acceptance

/-!
# Which messages are delivered

What a message needs so that its delivery resolves, and what the delivery then lists.
-/

namespace CrossSwap

variable {signer : Address} {snapshot : Snapshot} {envelope : Envelope}

theorem settleConditions_met_iff :
    (∀ c ∈ settleConditions envelope, c.met = true) ↔
      match envelope.resolution with
      | .fill f =>
          envelope.key.srcNid = envelope.order.dstNid ∧ (Address.ofText? f.solver).isSome ∧
            (Address.ofText? envelope.order.creator).isSome ∧ NamesAsset envelope.order.token ∧
            (Text.toBytes envelope.order.dstNid).length ≤ 32
      | .cancel _ => envelope.key.srcNid = envelope.order.srcNid ∧ envelope.order.id ≠ 0 := by
  rw [settleConditions]
  cases envelope.resolution with
  | fill f =>
      simp only [List.forall_mem_cons, releaseConditions_met_iff]
      simp [Condition.fromNetwork, Condition.address]
  | cancel c => simp [Condition.fromNetwork, Condition.assignedId, SwapOrder.hasId_iff]

/-- The name of the destination is that of the network that a fill comes from, so it is short
enough if that one is. -/
theorem deliveryConditions_met_iff :
    (∀ c ∈ deliveryConditions signer snapshot envelope, c.met = true) ↔
      snapshot.admin = signer ∧ (Text.toBytes envelope.key.srcNid).length ≤ 32 ∧
        match envelope.resolution with
        | .fill f =>
            envelope.key.srcNid = envelope.order.dstNid ∧ (Address.ofText? f.solver).isSome ∧
              (Address.ofText? envelope.order.creator).isSome ∧ NamesAsset envelope.order.token
        | .cancel _ => envelope.key.srcNid = envelope.order.srcNid ∧ envelope.order.id ≠ 0 := by
  rw [deliveryConditions, List.forall_mem_cons, List.forall_mem_cons, settleConditions_met_iff]
  cases envelope.resolution with
  | fill f =>
      simp only [Condition.networkSeed, decide_eq_true_iff]
      constructor
      · rintro ⟨hadmin, hlength, hnetwork, hsolver, hcreator, hasset, -⟩
        exact ⟨hadmin, hlength, hnetwork, hsolver, hcreator, hasset⟩
      · rintro ⟨hadmin, hlength, hnetwork, hsolver, hcreator, hasset⟩
        have hdestination := hlength
        rw [hnetwork] at hdestination
        exact ⟨hadmin, hlength, hnetwork, hsolver, hcreator, hasset, hdestination⟩
  | cancel c => simp only [Condition.networkSeed, decide_eq_true_iff]

namespace Program

variable {program : Program} {config : Address} {entries : List AccountEntry}

theorem length_settleAccounts (h : program.settleAccounts config envelope = .ok entries) :
    entries.length = match envelope.resolution with | .fill _ => 10 | .cancel _ => 3 := by
  cases hresolution : envelope.resolution with
  | fill f =>
      obtain ⟨-, solver, -, hrelease⟩ := (settleAccounts_fill_eq_ok_iff hresolution).mp h
      obtain ⟨addresses, hlength, rfl⟩ := exists_addresses_of_release hrelease
      rw [List.length_map, hlength]
  | cancel c =>
      obtain ⟨-, -, finished, -, rfl⟩ := (settleAccounts_cancel_eq_ok_iff hresolution).mp h
      rfl

/-- Where the bumps are found, a message is delivered exactly if it can be read, the admin delivers
it from a network with a short enough name, and this network is the destination of the order that
was filled, whose release can be built, or the origin of the order with an id that is cancelled. -/
theorem delivery_resolves_iff (program : Program) (signer : Address) (snapshot : Snapshot)
    (srcNid : String) (connSn : Word128) (msg : Bytes)
    (hfinds : program.FindsBumps (.receiveMessage signer srcNid connSn msg) snapshot) :
    ((∃ r, program.resolve (.receiveMessage signer srcNid connSn msg) snapshot = .ok r) ↔
      ∃ envelope, Envelope.decode srcNid connSn msg = .ok envelope ∧ signer = snapshot.admin ∧
        (Text.toBytes srcNid).length ≤ 32 ∧
        match envelope.resolution with
        | .fill f =>
            srcNid = envelope.order.dstNid ∧ (Address.ofText? f.solver).isSome ∧
              (Address.ofText? envelope.order.creator).isSome ∧ NamesAsset envelope.order.token
        | .cancel _ => srcNid = envelope.order.srcNid ∧ envelope.order.id ≠ 0) ∧
    ∀ r, program.resolve (.receiveMessage signer srcNid connSn msg) snapshot = .ok r →
      r.instruction = .recvMessage srcNid connSn msg ∧ r.settlement = none ∧
      (∃ receipt, program.account (.receipt srcNid connSn) = .ok receipt ∧
        r.accounts[3]? = some ⟨receipt, true, false⟩) ∧
      ∃ envelope, Envelope.decode srcNid connSn msg = .ok envelope ∧
        r.accounts.length = match envelope.resolution with | .fill _ => 14 | .cancel _ => 7 := by
  constructor
  · rw [(decidedBy_resolve hfinds).exists_ok_iff, Request.conditions]
    cases hdecode : Envelope.decode srcNid connSn msg with
    | error e => simp
    | ok envelope =>
        obtain ⟨hkey, -⟩ := Envelope.decode_eq_ok_iff.mp hdecode
        simp only [deliveryConditions_met_iff, hkey, Except.ok.injEq, exists_eq_left',
          eq_comm (a := signer)]
  · intro r h
    obtain ⟨envelope, hdecode, hresolve⟩ := resolve_receiveMessage_eq_ok_iff.mp h
    obtain ⟨hkey, -⟩ := Envelope.decode_eq_ok_iff.mp hdecode
    obtain ⟨-, config, -, receipt, hreceipt, settled, hsettled, rfl⟩ :=
      resolveEnvelope_eq_ok_iff.mp hresolve
    rw [hkey] at hreceipt ⊢
    refine ⟨rfl, rfl, ⟨receipt, hreceipt, rfl⟩, envelope, hdecode, ?_⟩
    rw [List.length_append, length_settleAccounts hsettled]
    cases envelope.resolution with
    | fill f => rfl
    | cancel c => rfl

theorem delivery_resolves_iff_token :
    let program : Program := ⟨Address.associatedTokenProgram⟩
    let admin := Address.systemProgram
    let order : SwapOrder :=
      { id := 1, emitter := "", srcNid := "b", dstNid := "a"
        creator := "TokenkegQfeZyiNwAJbNbGKPFXCWuBvf9Ss623VQ5DA"
        destinationAddress := "", token := "11111111111111111111111111111112", amount := 5
        toToken := "", toAmount := 7, data := [] }
    let solver := "11111111111111111111111111111114"
    let msg := order.fillMessage solver
    let snapshot : Snapshot := ⟨admin, Address.tokenProgram, "b", 30, 0, 0⟩
    ∃ r receipt, program.resolve (.receiveMessage admin "a" 9 msg) snapshot = .ok r ∧
      r.instruction = .recvMessage "a" 9 msg ∧ r.settlement = none ∧
      program.account (.receipt "a" 9) = .ok receipt ∧
      r.accounts[3]? = some ⟨receipt, true, false⟩ ∧ r.accounts.length = 14 := by
  intro program admin order solver msg snapshot
  obtain ⟨hiff, hresolved⟩ :=
    delivery_resolves_iff program admin snapshot "a" 9 msg (by decide +kernel)
  have hdecode : Envelope.decode "a" 9 msg =
      .ok ⟨⟨"a", 9⟩, .fill, order, some solver, .fill (.forOrder order solver)⟩ :=
    Envelope.decode_fillMessage (by decide +kernel)
  obtain ⟨r, hr⟩ := hiff.mpr ⟨_, hdecode, rfl, by decide, by decide +kernel⟩
  obtain ⟨hinstruction, hsettlement, ⟨receipt, hreceipt, hplace⟩, envelope, henvelope, hlength⟩ :=
    hresolved r hr
  rw [hdecode, Except.ok.injEq] at henvelope
  subst henvelope
  exact ⟨r, receipt, hr, hinstruction, hsettlement, hreceipt, hplace, hlength⟩

end Program

end CrossSwap
