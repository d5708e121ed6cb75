import CrossSwap.Deployment.Config
import CrossSwap.Json.Record
import CrossSwap.Order.Lifecycle
import CrossSwap.Relay.Envelope
import CrossSwap.Relay.Replay
import CrossSwap.Resolve.Page

/-!
# The JSON forms of the library's types

Records keep the names and the order of their fields, byte strings are lists of numbers, and the
members of an enumeration are written by name.
-/

namespace CrossSwap.Json

open Form

/-- An enumeration whose members have names. -/
@[reducible] def Form.ofNames {α : Type} [BEq α] (names : List (String × α)) : Form α where
  ofValue := Value.variant? names
  toValue a := ((names.find? fun p => p.2 == a).map fun p => .text (some p.1)).getD .null

instance : Form SwapOrder where
  ofValue v := do
    let r ← Record.ofValue ["id", "emitter", "src_nid", "dst_nid", "creator", "destination_address",
      "token", "amount", "to_token", "to_amount", "data"] v
    return { id := ← r.field "id", emitter := ← r.field "emitter", srcNid := ← r.field "src_nid",
             dstNid := ← r.field "dst_nid", creator := ← r.field "creator",
             destinationAddress := ← r.field "destination_address", token := ← r.field "token",
             amount := ← r.field "amount", toToken := ← r.field "to_token",
             toAmount := ← r.field "to_amount", data := ← r.field "data" }
  toValue o := .ofFields
    [("id", toValue o.id), ("emitter", toValue o.emitter), ("src_nid", toValue o.srcNid),
     ("dst_nid", toValue o.dstNid), ("creator", toValue o.creator),
     ("destination_address", toValue o.destinationAddress), ("token", toValue o.token),
     ("amount", toValue o.amount), ("to_token", toValue o.toToken),
     ("to_amount", toValue o.toAmount), ("data", toValue o.data)]

instance : Form OrderFill where
  ofValue v := do
    let r ← Record.ofValue ["id", "order_bytes", "solver"] v
    return ⟨← r.field "id", ← r.field "order_bytes", ← r.field "solver"⟩
  toValue f := .ofFields
    [("id", toValue f.id), ("order_bytes", toValue f.orderBytes), ("solver", toValue f.solver)]

instance : Form OrderCancel where
  ofValue v := do
    let r ← Record.ofValue ["order_bytes"] v
    return ⟨← r.field "order_bytes"⟩
  toValue c := .ofFields [("order_bytes", toValue c.orderBytes)]

instance : Form MessageType :=
  .ofNames [("Fill", .fill), ("Cancel", .cancel)]

instance : Form OrderMessage where
  ofValue v := do
    let r ← Record.ofValue ["message_type", "payload"] v
    return ⟨← r.field "message_type", ← r.field "payload"⟩
  toValue m := .ofFields
    [("message_type", toValue m.messageType), ("payload", toValue m.payload)]

instance : Form ReplayKey where
  ofValue v := do
    let r ← Record.ofValue ["src_nid", "conn_sn"] v
    return ⟨← r.field "src_nid", ← r.field "conn_sn"⟩
  toValue k := .ofFields [("src_nid", toValue k.srcNid), ("conn_sn", toValue k.connSn)]

instance : Form FeeSplit where
  ofValue v := do
    let r ← Record.ofValue ["fee", "payout"] v
    return ⟨← r.field "fee", ← r.field "payout"⟩
  toValue s := .ofFields [("fee", toValue s.fee), ("payout", toValue s.payout)]

instance : Form OrderState :=
  .ofNames [("Created", .created), ("Filled", .filled), ("Cancelled", .cancelled),
    ("Finished", .finished)]

instance : Form OrderEvent :=
  .ofNames [("Fill", .fill), ("Cancel", .cancel), ("Resolve", .resolve)]

instance : Form AccountView where
  ofValue v := do
    let r ← Record.ofValue ["pubkey", "is_writable", "is_signer"] v
    return ⟨← r.field "pubkey", ← r.field "is_writable", ← r.field "is_signer"⟩
  toValue a := .ofFields
    [("pubkey", toValue a.pubkey), ("is_writable", toValue a.isWritable),
     ("is_signer", toValue a.isSigner)]

instance : Form AccountsPage where
  ofValue v := do
    let r ← Record.ofValue ["accounts", "total_accounts", "page", "limit", "has_next_page"] v
    let accounts ← r.field "accounts"
    let total : Word64 ← r.field "total_accounts"
    return ⟨accounts, total.toNat, ← r.field "page", ← r.field "limit", ← r.field "has_next_page"⟩
  toValue p := .ofFields
    [("accounts", toValue p.accounts), ("total_accounts", .ofNat p.totalAccounts),
     ("page", toValue p.page), ("limit", toValue p.limit),
     ("has_next_page", toValue p.hasNextPage)]

instance : Form Deployment where
  ofValue v := do
    let r ← Record.ofValue ["name", "rpc_url", "network_id", "program_id", "timeout_secs"] v
    return ⟨← r.field "name", ← r.field "rpc_url", ← r.field "network_id", ← r.field "program_id",
      ← r.fieldOr "timeout_secs" Deployment.defaultTimeout⟩
  toValue d := .ofFields
    [("name", toValue d.name), ("rpc_url", toValue d.rpcUrl), ("network_id", toValue d.networkId),
     ("program_id", toValue d.programId), ("timeout_secs", toValue d.timeoutSecs)]

end CrossSwap.Json
