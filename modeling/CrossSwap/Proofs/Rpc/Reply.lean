import CrossSwap.Proofs.Json.Value
import CrossSwap.Rpc.Reply

/-!
# Replies that are written can be read

Every reply has a body from which it is read, so each of them can reach a reader.
-/

namespace CrossSwap.Rpc

open Json Form

theorem textual_orNull {α : Type} [Form α] {a : Option α} (h : ∀ b ∈ a, (toValue b).Textual) :
    (orNull a).Textual := by
  cases a with
  | none => exact .null
  | some b => exact h b rfl

theorem textual_toValue_sentData (sent : SentData) : (toValue sent).Textual := by
  apply Value.Textual.object
  simp only [List.forall_mem_singleton]
  apply Value.Textual.list
  intro v hv
  obtain ⟨s, -, rfl⟩ := List.mem_map.mp hv
  exact .text s

theorem textual_toValue_result (result : Result) : (toValue result).Textual := by
  apply Value.Textual.object
  simp only [List.forall_mem_singleton]
  exact textual_orNull fun sent _ => textual_toValue_sentData sent

theorem textual_toValue_refusal (refusal : Refusal) : (toValue refusal).Textual := by
  apply Value.Textual.object
  simp only [List.forall_mem_singleton]
  exact .text refusal.message

theorem textual_toValue_reply (reply : Reply) : (toValue reply).Textual := by
  apply Value.Textual.object
  simp only [List.forall_mem_cons]
  exact ⟨textual_orNull fun result _ => textual_toValue_result result,
    textual_orNull fun refusal _ => textual_toValue_refusal refusal, List.forall_mem_nil _⟩

theorem ofValue_toValue_reply (reply : Reply) : ofValue (toValue reply) = some reply := by
  obtain ⟨result, error⟩ := reply
  rcases result with _ | ⟨_ | ⟨content, encoding⟩⟩
  all_goals
    cases error
    all_goals
      simp [Form.ofValue, Form.toValue, orNull, Value.ofFields, Record.ofValue, Record.field,
        Record.field?, Record.value?, List.lookup_cons]

/-- Every reply is read from the body that is written for it. -/
theorem decode_encode_reply (reply : Reply) :
    Json.decode Reply (Json.encode reply) = some reply := by
  rw [Json.decode, Json.encode, parse_render (textual_toValue_reply reply)]
  exact ofValue_toValue_reply reply

end CrossSwap.Rpc
