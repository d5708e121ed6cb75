import CrossSwap.Json.Record

/-!
# Requests and replies

A request asks for one account.  A reply may carry an error, and a result that may carry the account;
of the account only the data is kept, as the text that it is sent in and the name of its encoding.
-/

namespace CrossSwap.Rpc

open Json Form

/-- The data of an account, as it is sent. -/
structure SentData where
  content : String
  encoding : String
  deriving DecidableEq, Repr

/-- A result: the account, if there is one. -/
structure Result where
  account : Option SentData
  deriving DecidableEq, Repr

structure Reply where
  result : Option Result
  error : Option String
  deriving DecidableEq, Repr

instance : Form SentData where
  ofValue v := do
    let r ← Record.ofValue ["data"] v
    match ← r.field "data" with
    | [content, encoding] => return ⟨content, encoding⟩
    | _ => none
  toValue d := .ofFields [("data", toValue [d.content, d.encoding])]

/-- The form of a value that may be missing. -/
def orNull {α : Type} [Form α] (a : Option α) : Value :=
  (a.map toValue).getD .null

instance : Form Result where
  ofValue v := do
    let r ← Record.ofValue ["value"] v
    return ⟨← r.field? "value"⟩
  toValue r := .ofFields [("value", orNull r.account)]

/-- An error, of which only the message is kept. -/
structure Refusal where
  message : String

instance : Form Refusal where
  ofValue v := do
    let r ← Record.ofValue ["message"] v
    return ⟨← r.field "message"⟩
  toValue e := .ofFields [("message", toValue e.message)]

instance : Form Reply where
  ofValue v := do
    let r ← Record.ofValue ["result", "error"] v
    let result ← r.field? "result"
    let error : Option Refusal ← r.field? "error"
    return ⟨result, error.map Refusal.message⟩
  toValue r := .ofFields [("result", orNull r.result), ("error", orNull (r.error.map Refusal.mk))]

/-- The request for the account at an address, given as text. -/
def accountRequest (address : String) : Value :=
  .ofFields
    [("jsonrpc", toValue "2.0"), ("method", toValue "getAccountInfo"),
     ("params", .list [toValue address, .ofFields [("encoding", toValue "base64")]]),
     ("id", .ofNat 1)]

end CrossSwap.Rpc
