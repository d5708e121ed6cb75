import CrossSwap.Proofs.Outcome
import CrossSwap.Resolve.Request

/-!
# Which requests resolve

A request resolves exactly when each of its checks passes, and then to the accounts in their
order.
-/

namespace CrossSwap

namespace Program

open AccountEntry

variable {program : Program} {signer config : Address} {order : SwapOrder} {snapshot : Snapshot}
  {envelope : Envelope} {resolved : Resolved}

theorem resolveCreate_eq_ok_iff :
    program.resolveCreate signer order = .ok resolved ↔
      ∃ creator, parseAddress "creator" order.creator = .ok creator ∧ creator = signer ∧
        ∃ asset, Asset.parse "token" order.token = .ok asset ∧
        ∃ config, program.account .config = .ok config ∧
        ∃ escrow, program.escrow creator order = .ok escrow ∧
        ∃ deposit, program.depositAccounts signer asset = .ok deposit ∧
          resolved = {
            instruction := .swap order
            accounts :=
              [.signer signer, readonly Address.systemProgram, writable config, writable escrow] ++
                deposit ++ [readonly Address.tokenProgram]
            settlement := none } := by
  simp only [resolveCreate, bind_eq_ok_iff, require_eq_ok_iff, pure_eq_ok_iff, exists_const]

theorem ownRelease_eq_ok_iff {solverAddress : String} {entries : List AccountEntry} :
    program.ownRelease order solverAddress = .ok entries ↔
      if order.isSameNetwork then
        ∃ solver, parseAddress "solver_address" solverAddress = .ok solver ∧
          program.release order solver = .ok entries
      else entries = [] := by
  rw [ownRelease]
  split
  · simp only [bind_eq_ok_iff]
  · rw [Except.ok.injEq, eq_comm]

theorem resolveFill_eq_ok_iff {solverAddress : String} :
    program.resolveFill signer order solverAddress snapshot = .ok resolved ↔
      order.hasId ∧ solverAddress ≠ "" ∧ order.destinationAddress ≠ "" ∧
        ∃ destination, parseAddress "destination_address" order.destinationAddress =
          .ok destination ∧
        ∃ asset, Asset.parse "to_token" order.toToken = .ok asset ∧
        ∃ settlement, FeeSplit.of order.toAmount snapshot.protocolFee = .ok settlement ∧
        ∃ config, program.account .config = .ok config ∧
        ∃ finished, program.account (.orderFinished order.hash) = .ok finished ∧
        ∃ payment, program.paymentAccounts snapshot.feeHandler destination signer asset =
          .ok payment ∧
        ∃ released, program.ownRelease order solverAddress = .ok released ∧
          resolved = {
            instruction := .fill order solverAddress
            accounts :=
              [.signer signer, readonly Address.systemProgram, writable config,
                writable snapshot.feeHandler, writable destination, writable finished] ++
                payment ++
                [readonly Address.tokenProgram, readonly Address.associatedTokenProgram] ++ released
            settlement := some settlement } := by
  simp only [resolveFill, bind_eq_ok_iff, require_eq_ok_iff, mapError_eq_ok_iff, pure_eq_ok_iff,
    exists_const]

theorem cancelMark_eq_ok_iff {mark : AccountEntry} :
    program.cancelMark order = .ok mark ↔
      if order.isSameNetwork then
        order.hasId ∧ ∃ finished, program.account (.orderFinished order.hash) = .ok finished ∧
          mark = writable finished
      else mark = program.unused := by
  rw [cancelMark]
  split
  · simp only [bind_eq_ok_iff, require_eq_ok_iff, pure_eq_ok_iff, exists_const]
  · rw [Except.ok.injEq, eq_comm]

theorem resolveCancel_eq_ok_iff :
    program.resolveCancel signer order = .ok resolved ↔
      ∃ creator, parseAddress "creator" order.creator = .ok creator ∧ creator = signer ∧
        ∃ config, program.account .config = .ok config ∧
        ∃ escrow, program.escrow creator order = .ok escrow ∧
        ∃ mark, program.cancelMark order = .ok mark ∧
          resolved = {
            instruction := .cancel order
            accounts :=
              [.signer signer, readonly Address.systemProgram, writable config, writable escrow,
                mark]
            settlement := none } := by
  simp only [resolveCancel, bind_eq_ok_iff, require_eq_ok_iff, pure_eq_ok_iff, exists_const]

theorem settleAccounts_fill_eq_ok_iff {fill : OrderFill} {entries : List AccountEntry}
    (hfill : envelope.resolution = .fill fill) :
    program.settleAccounts config envelope = .ok entries ↔
      envelope.key.srcNid = envelope.order.dstNid ∧
        ∃ solver, parseAddress "solver" fill.solver = .ok solver ∧
          program.release envelope.order solver = .ok entries := by
  simp only [settleAccounts, hfill, bind_eq_ok_iff, require_eq_ok_iff, exists_const]

theorem settleAccounts_cancel_eq_ok_iff {cancel : OrderCancel} {entries : List AccountEntry}
    (hcancel : envelope.resolution = .cancel cancel) :
    program.settleAccounts config envelope = .ok entries ↔
      envelope.key.srcNid = envelope.order.srcNid ∧ envelope.order.hasId ∧
        ∃ finished, program.account (.orderFinished (Keccak.digest cancel.orderBytes)) =
          .ok finished ∧
          entries = [writable config, writable finished, program.unusedWritable] := by
  simp only [settleAccounts, hcancel, bind_eq_ok_iff, require_eq_ok_iff, pure_eq_ok_iff,
    exists_const]

theorem resolveEnvelope_eq_ok_iff {msg : Bytes} :
    program.resolveEnvelope signer snapshot envelope msg = .ok resolved ↔
      snapshot.admin = signer ∧
        ∃ config, program.account .config = .ok config ∧
        ∃ receipt, program.account (.receipt envelope.key.srcNid envelope.key.connSn) =
          .ok receipt ∧
        ∃ settled, program.settleAccounts config envelope = .ok settled ∧
          resolved = {
            instruction := .recvMessage envelope.key.srcNid envelope.key.connSn msg
            accounts :=
              [.signer signer, readonly Address.systemProgram, readonly config,
                writable receipt] ++ settled
            settlement := none } := by
  simp only [resolveEnvelope, bind_eq_ok_iff, require_eq_ok_iff, pure_eq_ok_iff, exists_const]

theorem resolve_receiveMessage_eq_ok_iff {srcNid : String} {connSn : Word128} {msg : Bytes} :
    program.resolve (.receiveMessage signer srcNid connSn msg) snapshot = .ok resolved ↔
      ∃ envelope, Envelope.decode srcNid connSn msg = .ok envelope ∧
        program.resolveEnvelope signer snapshot envelope msg = .ok resolved := by
  simp only [resolve, bind_eq_ok_iff, mapError_eq_ok_iff]

end Program

end CrossSwap
