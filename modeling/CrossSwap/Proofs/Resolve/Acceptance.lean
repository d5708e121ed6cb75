import CrossSwap.Proofs.Resolve.Refusal
import CrossSwap.Proofs.Resolve.Release

/-!
# Which orders are created, filled and cancelled

What an order needs so that it can be created, filled or cancelled.  A fill needs what a release
needs only on the network of origin, and a cancellation the id only there.
-/

namespace CrossSwap

variable {signer : Address} {order : SwapOrder} {solverAddress : String} {snapshot : Snapshot}

theorem SwapOrder.hasId_iff : order.hasId = true ↔ order.id ≠ 0 :=
  bne_iff_ne

theorem createConditions_met_iff :
    (∀ c ∈ createConditions signer order, c.met = true) ↔
      (Address.ofText? order.creator).isSome ∧ Address.ofText? order.creator = some signer ∧
        NamesAsset order.token ∧ (Text.toBytes order.dstNid).length ≤ 32 := by
  simp [createConditions, Condition.address, Condition.signedByCreator, Condition.asset,
    Condition.networkSeed]

theorem releaseConditions_met_iff :
    (∀ c ∈ releaseConditions order, c.met = true) ↔
      (Address.ofText? order.creator).isSome ∧ NamesAsset order.token ∧
        (Text.toBytes order.dstNid).length ≤ 32 := by
  simp [releaseConditions, Condition.address, Condition.asset, Condition.networkSeed]

theorem fillConditions_met_iff :
    (∀ c ∈ fillConditions order solverAddress snapshot, c.met = true) ↔
      order.id ≠ 0 ∧ solverAddress ≠ "" ∧ order.destinationAddress ≠ "" ∧
        (Address.ofText? order.destinationAddress).isSome ∧ NamesAsset order.toToken ∧
        snapshot.protocolFee.toNat ≤ 10000 ∧
        (order.srcNid = order.dstNid →
          (Address.ofText? solverAddress).isSome ∧ (Address.ofText? order.creator).isSome ∧
            NamesAsset order.token ∧ (Text.toBytes order.dstNid).length ≤ 32) := by
  have hown : (∀ c ∈ (if order.isSameNetwork then
        Condition.address "solver_address" solverAddress :: releaseConditions order else []),
        c.met = true) ↔
      (order.srcNid = order.dstNid →
        (Address.ofText? solverAddress).isSome ∧ (Address.ofText? order.creator).isSome ∧
          NamesAsset order.token ∧ (Text.toBytes order.dstNid).length ≤ 32) := by
    rw [← SwapOrder.isSameNetwork_iff]
    by_cases hsame : order.isSameNetwork = true
    · rw [if_pos hsame, List.forall_mem_cons, releaseConditions_met_iff]
      simp [hsame, Condition.address]
    · simp [hsame]
  rw [fillConditions, List.forall_mem_append, hown]
  simp [Condition.assignedId, SwapOrder.hasId_iff, Condition.address, Condition.asset,
    Condition.acceptedRate, and_assoc]

theorem cancelConditions_met_iff :
    (∀ c ∈ cancelConditions signer order, c.met = true) ↔
      (Address.ofText? order.creator).isSome ∧ Address.ofText? order.creator = some signer ∧
        (Text.toBytes order.dstNid).length ≤ 32 ∧
        (order.srcNid = order.dstNid → order.id ≠ 0) := by
  rw [cancelConditions, List.forall_mem_append, ← SwapOrder.isSameNetwork_iff]
  by_cases hsame : order.isSameNetwork = true
  · simp [hsame, Condition.address, Condition.signedByCreator, Condition.networkSeed,
      Condition.assignedId, SwapOrder.hasId_iff, and_assoc]
  · simp [hsame, Condition.address, Condition.signedByCreator, Condition.networkSeed]

namespace Program

/-- Where the bumps are found, an order is created, filled or cancelled exactly if it meets the
conditions of the request, and refused for the first that it does not meet. -/
theorem orders_resolve_iff (program : Program) (signer : Address) (order : SwapOrder)
    (solverAddress : String) (snapshot : Snapshot) :
    (program.FindsBumps (.create signer order) snapshot →
      ((∃ r, program.resolve (.create signer order) snapshot = .ok r) ↔
        (Address.ofText? order.creator).isSome ∧ Address.ofText? order.creator = some signer ∧
          NamesAsset order.token ∧ (Text.toBytes order.dstNid).length ≤ 32) ∧
      ∀ e, program.resolve (.create signer order) snapshot = .error e ↔
        firstRefusal (createConditions signer order) = some e) ∧
    (program.FindsBumps (.fill signer order solverAddress) snapshot →
      ((∃ r, program.resolve (.fill signer order solverAddress) snapshot = .ok r) ↔
        order.id ≠ 0 ∧ solverAddress ≠ "" ∧ order.destinationAddress ≠ "" ∧
          (Address.ofText? order.destinationAddress).isSome ∧ NamesAsset order.toToken ∧
          snapshot.protocolFee.toNat ≤ 10000 ∧
          (order.srcNid = order.dstNid →
            (Address.ofText? solverAddress).isSome ∧ (Address.ofText? order.creator).isSome ∧
              NamesAsset order.token ∧ (Text.toBytes order.dstNid).length ≤ 32)) ∧
      ∀ e, program.resolve (.fill signer order solverAddress) snapshot = .error e ↔
        firstRefusal (fillConditions order solverAddress snapshot) = some e) ∧
    (program.FindsBumps (.cancel signer order) snapshot →
      ((∃ r, program.resolve (.cancel signer order) snapshot = .ok r) ↔
        (Address.ofText? order.creator).isSome ∧ Address.ofText? order.creator = some signer ∧
          (Text.toBytes order.dstNid).length ≤ 32 ∧
          (order.srcNid = order.dstNid → order.id ≠ 0)) ∧
      ∀ e, program.resolve (.cancel signer order) snapshot = .error e ↔
        firstRefusal (cancelConditions signer order) = some e) := by
  refine ⟨?_, ?_, ?_⟩
  · intro hfinds
    have hdecided := decidedBy_resolve hfinds
    exact ⟨hdecided.exists_ok_iff.trans createConditions_met_iff, fun e => hdecided.eq_error_iff⟩
  · intro hfinds
    have hdecided := decidedBy_resolve hfinds
    exact ⟨hdecided.exists_ok_iff.trans fillConditions_met_iff, fun e => hdecided.eq_error_iff⟩
  · intro hfinds
    have hdecided := decidedBy_resolve hfinds
    exact ⟨hdecided.exists_ok_iff.trans cancelConditions_met_iff, fun e => hdecided.eq_error_iff⟩

/-- An order is created and filled on one network, and cancelled if it is for another.  With nobody
as its creator, no asset to pay and too long a name of its destination, it is refused for its
creator. -/
theorem orders_resolve_iff_native :
    let program : Program := ⟨Address.associatedTokenProgram⟩
    let signer := Address.tokenProgram
    let order : SwapOrder :=
      { id := 2, emitter := "", srcNid := "a", dstNid := "a"
        creator := "TokenkegQfeZyiNwAJbNbGKPFXCWuBvf9Ss623VQ5DA"
        destinationAddress := "11111111111111111111111111111113", token := nativeAsset, amount := 5
        toToken := nativeAsset, toAmount := 7, data := [] }
    let abroad : SwapOrder := { order with dstNid := "b" }
    let nobodys : SwapOrder :=
      { order with creator := "", token := "", dstNid := "aaaaaaaaaaaaaaaaaaaaaaaaaaaaaaaaa" }
    let solver := "11111111111111111111111111111114"
    let snapshot : Snapshot := ⟨Address.systemProgram, Address.tokenProgram, "a", 30, 0, 0⟩
    (∃ r, program.resolve (.create signer order) snapshot = .ok r) ∧
      (∃ r, program.resolve (.fill signer order solver) snapshot = .ok r) ∧
      (∃ r, program.resolve (.cancel signer abroad) snapshot = .ok r) ∧
      program.resolve (.create signer nobodys) snapshot = .error (.invalidAddress "creator") := by
  intro program signer order abroad nobodys solver snapshot
  obtain ⟨hcreate, hfill, -⟩ := orders_resolve_iff program signer order solver snapshot
  obtain ⟨-, -, hcancel⟩ := orders_resolve_iff program signer abroad solver snapshot
  obtain ⟨hrefuse, -⟩ := orders_resolve_iff program signer nobodys solver snapshot
  have hfinds : program.FindsBumps (.create signer order) snapshot ∧
      program.FindsBumps (.fill signer order solver) snapshot ∧
      program.FindsBumps (.cancel signer abroad) snapshot ∧
      program.FindsBumps (.create signer nobodys) snapshot := by decide +kernel
  obtain ⟨hcreated, hfilled, hcancelled, hrefused⟩ := hfinds
  refine ⟨?_, ?_, ?_, ?_⟩
  · exact (hcreate hcreated).1.mpr (by decide +kernel)
  · exact (hfill hfilled).1.mpr (by decide +kernel)
  · exact (hcancel hcancelled).1.mpr (by decide +kernel)
  · exact ((hrefuse hrefused).2 _).mpr (by decide +kernel)

end Program

end CrossSwap
