import CrossSwap.Proofs.Borsh.Layout
import CrossSwap.Proofs.Ledger.Discriminator

/-!
# The data of instructions

Data is read as an instruction exactly when it is the data of that instruction.  An instruction has
data exactly when its texts and byte strings are short enough for their lengths to be written.
-/

namespace CrossSwap.Instruction

open Borsh Borsh.Layout

variable {i : Instruction} {kind : InstructionKind} {bs d : Bytes}

/-- The texts and byte strings of an instruction. -/
def contents : Instruction → List Bytes
  | setUp networkId _ => [Text.toBytes networkId]
  | setAdmin _ => []
  | setProtocolFee _ => []
  | setFeeHandler _ => []
  | swap order => order.contents
  | fill order solverAddress => order.contents ++ [Text.toBytes solverAddress]
  | cancel order => order.contents
  | recvMessage srcNetwork _ msg => [Text.toBytes srcNetwork, msg]

theorem exists_writeArgs_iff :
    (∃ args, i.writeArgs = .ok args) ↔ ∀ c ∈ i.contents, c.length < Nat.pow 2 32 := by
  cases i with
  | setUp networkId feeHandler =>
      have haddress := feeHandler.writable_layout
      change (pair text Address.layout).Writable (networkId, feeHandler) ↔ _
      rw [writable_pair_iff, writable_text_iff, and_iff_left haddress, contents,
        List.forall_mem_singleton]
  | setAdmin account => exact iff_of_true account.writable_layout (List.forall_mem_nil _)
  | setProtocolFee fee => exact iff_of_true (writable_word 8 fee) (List.forall_mem_nil _)
  | setFeeHandler feeHandler =>
      exact iff_of_true feeHandler.writable_layout (List.forall_mem_nil _)
  | swap order => exact SwapOrder.writable_layout_iff
  | fill order solverAddress =>
      change (pair SwapOrder.layout text).Writable (order, solverAddress) ↔ _
      rw [writable_pair_iff, SwapOrder.writable_layout_iff, writable_text_iff, contents,
        List.forall_mem_append, List.forall_mem_singleton]
  | cancel order => exact SwapOrder.writable_layout_iff
  | recvMessage srcNetwork connSn msg =>
      have hnumber := writable_word 16 connSn
      change (pair text (pair (word 16) blob)).Writable (srcNetwork, connSn, msg) ↔ _
      rw [writable_pair_iff, writable_pair_iff, writable_text_iff, and_iff_right hnumber,
        writable_blob_iff, contents, List.forall_mem_cons, List.forall_mem_singleton]

/-- Arguments of a kind are read exactly from what the instruction of that kind writes. -/
theorem readArgs_eq_ok_iff :
    readArgs kind bs = .ok i ↔ i.kind = kind ∧ i.writeArgs = .ok bs := by
  constructor
  · intro h
    cases kind
    all_goals
      obtain ⟨args, hread, rfl⟩ := map_eq_ok_iff.mp h
      exact ⟨rfl, readAll_eq_ok_iff.mp hread⟩
  · rintro ⟨rfl, hwrite⟩
    cases i
    all_goals exact map_eq_ok_iff.mpr ⟨_, readAll_eq_ok_iff.mpr hwrite, rfl⟩

theorem data_eq_ok_iff :
    i.data = .ok d ↔ ∃ args, i.writeArgs = .ok args ∧ d = i.kind.discriminator ++ args :=
  tagged_eq_ok_iff

theorem ofData_append_eq_ok_iff {tag args : Bytes} (htag : tag.length = discriminatorSize) :
    ofData (tag ++ args) = .ok i ↔
      ∃ kind, InstructionKind.ofDiscriminator? tag = some kind ∧ readArgs kind args = .ok i := by
  rw [ofData, if_neg (not_lt_discriminatorSize htag args), List.take_left' htag,
    List.drop_left' htag]
  cases InstructionKind.ofDiscriminator? tag with
  | none => exact iff_of_false nofun nofun
  | some kind =>
      simp only [mapError_eq_ok_iff, Option.some.injEq, exists_eq_left']

theorem ofData_eq_ok_iff : ofData d = .ok i ↔ i.data = .ok d := by
  rw [data_eq_ok_iff]
  constructor
  · intro h
    by_cases hshort : d.length < discriminatorSize
    · cases (if_pos hshort).symm.trans h
    · obtain ⟨tag, args, htag, rfl⟩ := exists_eq_tag_append hshort
      obtain ⟨kind, hkind, hread⟩ := (ofData_append_eq_ok_iff htag).mp h
      obtain ⟨rfl, hwrite⟩ := readArgs_eq_ok_iff.mp hread
      exact ⟨args, hwrite, by rw [InstructionKind.ofDiscriminator?_eq_some_iff.mp hkind]⟩
  · rintro ⟨args, hwrite, rfl⟩
    exact (ofData_append_eq_ok_iff i.kind.length_discriminator).mpr
      ⟨i.kind, InstructionKind.ofDiscriminator?_eq_some_iff.mpr rfl,
        readArgs_eq_ok_iff.mpr ⟨rfl, hwrite⟩⟩

/-- An instruction has data exactly when its texts and byte strings are shorter than `2 ^ 32` bytes,
and data is read as an instruction exactly when it is the data of that instruction. -/
theorem data_exact :
    (∀ i : Instruction, (∀ c ∈ i.contents, c.length < Nat.pow 2 32) ↔
      ∃ d, i.data = .ok d ∧ ofData d = .ok i) ∧
      ∀ (d : Bytes) (i : Instruction), ofData d = .ok i ↔ i.data = .ok d := by
  refine ⟨fun i => ?_, fun d i => ofData_eq_ok_iff⟩
  rw [← exists_writeArgs_iff]
  constructor
  · rintro ⟨args, hwrite⟩
    have hdata : i.data = .ok (i.kind.discriminator ++ args) :=
      data_eq_ok_iff.mpr ⟨args, hwrite, rfl⟩
    exact ⟨_, hdata, ofData_eq_ok_iff.mpr hdata⟩
  · rintro ⟨d, hdata, -⟩
    obtain ⟨args, hwrite, -⟩ := data_eq_ok_iff.mp hdata
    exact ⟨args, hwrite⟩

theorem data_exact_long :
    let order : SwapOrder :=
      { id := 1, emitter := "", srcNid := "a", dstNid := "ä", creator := "b"
        destinationAddress := "c", token := "d", amount := BitVec.allOnes 128, toToken := "e"
        toAmount := 300, data := List.replicate 300 0xAA }
    (∃ d, (fill order "s").data = .ok d ∧ ofData d = .ok (fill order "s")) ∧
      ofData [173, 239, 83, 242, 136, 43, 144, 217, 100, 0, 0, 0, 0, 0, 0, 0] =
        .ok (setProtocolFee 100) := by
  intro order
  obtain ⟨hwritten, hread⟩ := data_exact
  refine ⟨(hwritten (fill order "s")).mp (by decide +kernel), ?_⟩
  exact (hread _ (setProtocolFee 100)).mpr (by decide +kernel)

end CrossSwap.Instruction
