import CrossSwap.Proofs.Ledger.Account
import CrossSwap.Proofs.Ledger.Derivation
import CrossSwap.Proofs.Resolve.Rate
import CrossSwap.Proofs.Rpc.Reply
import CrossSwap.Proofs.Text.Base64
import CrossSwap.Rpc.Reader

/-!
# Reads fail safe

What comes of a request has no account, or holds one of the type that was asked for, or is of no
use.  A reader that took the last for the first would report a message as not received that was, and
it would be delivered again.
-/

namespace CrossSwap

open Rpc

namespace Exchange

/-- The reply, if one came that can be read. -/
def reply? : Exchange → Option Reply
  | failed => none
  | answered body => Json.decode Reply body

/-- A reply came, without an error and without an account. -/
def LacksAccount (x : Exchange) : Prop :=
  ∃ reply, x.reply? = some reply ∧ reply.error = none ∧ reply.result.bind Result.account = none

/-- A reply came, without an error and with an account whose data is sent as this text. -/
def Sends (x : Exchange) (content : List Char) : Prop :=
  ∃ reply sent, x.reply? = some reply ∧ reply.error = none ∧
    reply.result.bind Result.account = some sent ∧ sent.content.toList = content

variable {α : Type} [StoredAccount α]

/-- The data sent is read as an account. -/
def Holds (x : Exchange) (a : α) : Prop :=
  ∃ d, x.Sends (Base64.encode d) ∧ StoredAccount.ofData α d = .ok a

/-- Nothing can be concluded about an account of the type. -/
inductive Unusable (α : Type) [StoredAccount α] (x : Exchange) : Prop
  | unread (h : x.reply? = none)
  /-- An error counts even next to a result. -/
  | refused {reply : Reply} {message : String} (h : x.reply? = some reply)
      (herror : reply.error = some message)
  | malformed {content : List Char} (h : x.Sends content)
      (hcontent : ∀ d, content ≠ Base64.encode d)
  | unaccepted {d : Bytes} (h : x.Sends (Base64.encode d))
      (hdata : ∀ a, StoredAccount.ofData α d ≠ .ok a)

variable {x : Exchange} {reply : Reply} {content : List Char} {d : Bytes} {a : α}

theorem data?_of_reply? (h : x.reply? = some reply) : x.data? = reply.data? := by
  cases x with
  | failed => cases h
  | answered body =>
      rw [reply?] at h
      rw [data?, h]

theorem exists_error_of_unread (h : x.reply? = none) : ∃ e, x.data? = .error e := by
  cases x with
  | failed => exact ⟨_, rfl⟩
  | answered body =>
      rw [reply?] at h
      rw [data?, h]
      exact ⟨_, rfl⟩

theorem exists_error_of_refused {message : String} (h : x.reply? = some reply)
    (herror : reply.error = some message) : ∃ e, x.data? = .error e := by
  rw [data?_of_reply? h, Reply.data?, herror]
  exact ⟨_, rfl⟩

theorem data?_of_lacksAccount (h : x.LacksAccount) : x.data? = .ok none := by
  obtain ⟨reply, hreply, herror, haccount⟩ := h
  rw [data?_of_reply? hreply, Reply.data?, herror]
  simp only [haccount]

theorem data?_of_sends (h : x.Sends content) :
    x.data? = (Base64.decode? content).elim (.error .malformedData) fun d => .ok (some d) := by
  obtain ⟨reply, sent, hreply, herror, haccount, rfl⟩ := h
  rw [data?_of_reply? hreply, Reply.data?, herror]
  simp only [haccount]
  cases Base64.decode? sent.content.toList with
  | none => rfl
  | some d => rfl

theorem data?_of_sends_encode (h : x.Sends (Base64.encode d)) : x.data? = .ok (some d) := by
  rw [data?_of_sends h, Base64.decode?_encode]
  rfl

theorem data?_of_malformed (h : x.Sends content) (hcontent : ∀ d, content ≠ Base64.encode d) :
    x.data? = .error .malformedData := by
  have hnone : Base64.decode? content = none := by
    apply Option.eq_none_iff_forall_ne_some.mpr
    intro d hd
    exact hcontent d (Base64.decode?_eq_some_iff.mp hd)
  rw [data?_of_sends h, hnone]
  rfl

theorem holds_of_toData (hdata : StoredAccount.toData a = .ok d) (padding : Bytes)
    (hsends : x.Sends (Base64.encode (d ++ padding))) : x.Holds a :=
  ⟨_, hsends, StoredAccount.ofData_eq_ok_iff.mpr ⟨d, hdata, List.prefix_append d padding⟩⟩

/-- Every exchange falls under one of the cases. -/
theorem trichotomy (α : Type) [StoredAccount α] (x : Exchange) :
    x.Unusable α ∨ x.LacksAccount ∨ ∃ a : α, x.Holds a := by
  cases hreply : x.reply? with
  | none => exact .inl (.unread hreply)
  | some reply =>
      cases herror : reply.error with
      | some message => exact .inl (.refused hreply herror)
      | none =>
          cases haccount : reply.result.bind Result.account with
          | none => exact .inr (.inl ⟨reply, hreply, herror, haccount⟩)
          | some sent =>
              have hsends : x.Sends sent.content.toList :=
                ⟨reply, sent, hreply, herror, haccount, rfl⟩
              cases hdecode : Base64.decode? sent.content.toList with
              | none =>
                  refine .inl (.malformed hsends fun d hd => ?_)
                  rw [Base64.decode?_eq_some_iff.mpr hd] at hdecode
                  cases hdecode
              | some d =>
                  rw [Base64.decode?_eq_some_iff.mp hdecode] at hsends
                  cases hread : StoredAccount.ofData α d with
                  | error e =>
                      refine .inl (.unaccepted hsends fun a ha => ?_)
                      rw [hread] at ha
                      cases ha
                  | ok a => exact .inr (.inr ⟨a, d, hsends, hread⟩)

end Exchange

namespace Reader

open Exchange

/-- What comes of asking for the account at an address. -/
def exchange (r : Reader) (address : Address) : Exchange :=
  r.send (accountRequest address.toText)

/-- What comes of asking for the account of the program for a purpose. -/
def Asked (r : Reader) (purpose : Purpose) (x : Exchange) : Prop :=
  ∃ d, r.program.derive purpose = .ok d ∧ x = r.exchange d.address

variable {r : Reader} {address : Address} {purpose : Purpose} {x : Exchange}

section Accounts

variable {α : Type} [StoredAccount α] {a : α} {d : Bytes}

theorem account?_of_lacksAccount (h : (r.exchange address).LacksAccount) :
    r.account? α address = .ok none :=
  bind_eq_ok_iff.mpr ⟨none, data?_of_lacksAccount h, rfl⟩

theorem account?_of_sends_encode (h : (r.exchange address).Sends (Base64.encode d)) :
    r.account? α address = ((StoredAccount.ofData α d).mapError ReadError.state).map some := by
  have hdata : r.accountData? address = .ok (some d) := data?_of_sends_encode h
  rw [account?, hdata]
  rfl

theorem account?_of_holds (h : (r.exchange address).Holds a) :
    r.account? α address = .ok (some a) := by
  obtain ⟨d, hsends, hread⟩ := h
  rw [account?_of_sends_encode hsends, hread]
  rfl

theorem exists_error_of_unusable (h : (r.exchange address).Unusable α) :
    ∃ e, r.account? α address = .error e := by
  have hfails : (∃ e, (r.exchange address).data? = .error e) →
      ∃ e, r.account? α address = .error e := by
    rintro ⟨e, hdata⟩
    exact ⟨e, bind_eq_error_iff.mpr (.inl hdata)⟩
  cases h with
  | unread h => exact hfails (exists_error_of_unread h)
  | refused h herror => exact hfails (exists_error_of_refused h herror)
  | malformed h hcontent => exact hfails ⟨_, data?_of_malformed h hcontent⟩
  | unaccepted h hdata =>
      -- The data is there; it is the account that cannot be read.
      rw [account?_of_sends_encode h]
      cases hread : StoredAccount.ofData α _ with
      | ok a => exact absurd hread (hdata a)
      | error e => exact ⟨_, rfl⟩

theorem account?_eq_ok_none_iff :
    r.account? α address = .ok none ↔ (r.exchange address).LacksAccount := by
  refine ⟨fun h => ?_, account?_of_lacksAccount⟩
  rcases trichotomy α (r.exchange address) with hunusable | hlacks | ⟨a, hholds⟩
  · obtain ⟨e, herror⟩ := exists_error_of_unusable hunusable
    rw [herror] at h
    cases h
  · exact hlacks
  · rw [account?_of_holds hholds] at h
    cases h

theorem account?_eq_ok_some_iff :
    r.account? α address = .ok (some a) ↔ (r.exchange address).Holds a := by
  refine ⟨fun h => ?_, account?_of_holds⟩
  rcases trichotomy α (r.exchange address) with hunusable | hlacks | ⟨b, hholds⟩
  · obtain ⟨e, herror⟩ := exists_error_of_unusable hunusable
    rw [herror] at h
    cases h
  · rw [account?_of_lacksAccount hlacks] at h
    cases h
  · rw [account?_of_holds hholds] at h
    cases h
    exact hholds

end Accounts

/-! ## The four reads -/

section Reads

variable {α β : Type} [StoredAccount α] {finish : Address → Option α → Except ReadError β} {b : β}

theorem address_eq_ok_iff :
    r.address purpose = .ok address ↔
      ∃ d, r.program.derive purpose = .ok d ∧ address = d.address := by
  rw [Reader.address, bind_eq_ok_iff]
  simp only [mapError_eq_ok_iff, pure_eq_ok_iff]

theorem exists_asked (hsized : Derived.WellSized purpose.seeds)
    (hviable : Derived.Viable r.program.address purpose.seeds) : ∃ x, r.Asked purpose x := by
  obtain ⟨d, hderive⟩ := Derived.exists_derive hsized hviable
  exact ⟨_, d, hderive, rfl⟩

/-- A read finds the account for a purpose and goes on with what it found. -/
theorem read_eq_ok_iff :
    (r.address purpose >>= fun address => r.account? α address >>= finish address) = .ok b ↔
      ∃ d, r.program.derive purpose = .ok d ∧
        ((r.exchange d.address).LacksAccount ∧ finish d.address none = .ok b ∨
          ∃ a : α, (r.exchange d.address).Holds a ∧ finish d.address (some a) = .ok b) := by
  simp only [bind_eq_ok_iff, address_eq_ok_iff, Option.exists, account?_eq_ok_none_iff,
    account?_eq_ok_some_iff]
  constructor
  · rintro ⟨address, ⟨d, hderive, rfl⟩, h⟩
    exact ⟨d, hderive, h⟩
  · rintro ⟨d, hderive, h⟩
    exact ⟨d.address, ⟨d, hderive, rfl⟩, h⟩

theorem exists_error_of_asked (h : ∀ x, r.Asked purpose x → x.Unusable α) :
    ∃ e, (r.address purpose >>= fun address => r.account? α address >>= finish address) =
      .error e := by
  cases haddress : r.address purpose with
  | error e => exact ⟨e, rfl⟩
  | ok address =>
      obtain ⟨d, hderive, rfl⟩ := address_eq_ok_iff.mp haddress
      obtain ⟨e, herror⟩ := exists_error_of_unusable (h _ ⟨d, hderive, rfl⟩)
      refine ⟨e, ?_⟩
      change (r.account? α d.address >>= finish d.address) = .error e
      exact bind_eq_error_iff.mpr (.inl herror)

/-- A flag is false where there is no account. -/
theorem flag_eq_ok_iff {flag : α → Bool} {b : Bool} :
    (r.address purpose >>= fun address => r.account? α address >>= fun found =>
        pure (found.any flag)) = .ok b ↔
      ∃ x, r.Asked purpose x ∧ (x.LacksAccount ∧ b = false ∨ ∃ a : α, x.Holds a ∧ flag a = b) := by
  rw [read_eq_ok_iff]
  simp only [pure_eq_ok_iff, Option.any_none, Option.any_some, eq_comm (a := b)]
  constructor
  · rintro ⟨d, hderive, h⟩
    exact ⟨_, ⟨d, hderive, rfl⟩, h⟩
  · rintro ⟨_, ⟨d, hderive, rfl⟩, h⟩
    exact ⟨d, hderive, h⟩

end Reads

variable {key : ReplayKey} {order : SwapOrder} {escrow : Address} {b : Bool} {s : Snapshot}

theorem isReceived_eq_ok_iff :
    r.isReceived key = .ok b ↔
      ∃ x, r.Asked (.receipt key.srcNid key.connSn) x ∧
        (x.LacksAccount ∧ b = false ∨ ∃ a : ReceiptAccount, x.Holds a ∧ a.received = b) :=
  flag_eq_ok_iff

theorem isFinished_eq_ok_iff :
    r.isFinished order = .ok b ↔
      ∃ x, r.Asked (.orderFinished order.hash) x ∧
        (x.LacksAccount ∧ b = false ∨ ∃ a : OrderFinishedAccount, x.Holds a ∧ a.finished = b) :=
  flag_eq_ok_iff

theorem order?_eq_ok_none_iff :
    r.order? escrow = .ok none ↔ (r.exchange escrow).LacksAccount := by
  rw [order?, bind_eq_ok_iff]
  simp only [pure_eq_ok_iff, Option.exists, account?_eq_ok_none_iff]
  simp

theorem order?_eq_ok_some_iff {stored : SwapOrder} :
    r.order? escrow = .ok (some stored) ↔
      ∃ a : OrderAccount, (r.exchange escrow).Holds a ∧ stored = a.order := by
  rw [order?, bind_eq_ok_iff]
  simp only [pure_eq_ok_iff, Option.exists, account?_eq_ok_some_iff]
  simp

theorem snapshot_eq_ok_iff :
    r.snapshot = .ok s ↔
      ∃ x, r.Asked .config x ∧ ∃ a : ConfigAccount, x.Holds a ∧
        a.protocolFee.toNat ≤ feeDenominator ∧ s = Snapshot.ofAccount a := by
  refine read_eq_ok_iff.trans ?_
  constructor
  · rintro ⟨d, hderive, ⟨-, h⟩ | ⟨a, hholds, h⟩⟩
    · cases h
    · obtain ⟨u, hvalid, hs⟩ := bind_eq_ok_iff.mp h
      rw [mapError_eq_ok_iff] at hvalid
      exact ⟨_, ⟨d, hderive, rfl⟩, a, hholds, checkRate_eq_ok_iff.mp hvalid, pure_eq_ok_iff.mp hs⟩
  · rintro ⟨_, ⟨d, hderive, rfl⟩, a, hholds, hrate, rfl⟩
    refine ⟨d, hderive, .inr ⟨a, hholds, bind_eq_ok_iff.mpr ⟨(), ?_, rfl⟩⟩⟩
    rw [mapError_eq_ok_iff]
    exact checkRate_eq_ok_iff.mpr hrate

theorem snapshot_of_rate_gt {a : ConfigAccount} (hasked : r.Asked .config x) (hholds : x.Holds a)
    (hrate : feeDenominator < a.protocolFee.toNat) :
    r.snapshot = .error (.fee (.invalidProtocolFee a.protocolFee)) := by
  obtain ⟨d, hderive, rfl⟩ := hasked
  have hcheck := checkRate_eq_error_iff.mpr ⟨hrate, rfl⟩
  rw [snapshot, address_eq_ok_iff.mpr ⟨d, hderive, rfl⟩]
  change (r.account? ConfigAccount d.address >>= _) = _
  rw [account?_of_holds hholds]
  change ((checkRate a.protocolFee).mapError ReadError.fee >>= _) = _
  rw [hcheck]
  rfl

end Reader

open Exchange in
/-- What comes of a request and is of no use gives an error in each of the four reads.  A message is
not received, an order not finished, only if a reply without an error has no account or one whose
flag is false, and there is no order only if such a reply has no account.  An account that was
stored, padded and sent is read back, the settings if their fee is valid; so no fill under a snapshot
that was read is refused for the fee. -/
theorem reads_fail_safe (r : Reader) (key : ReplayKey) (order : SwapOrder) (escrow : Address) :
    ((∀ x, r.Asked .config x → x.Unusable ConfigAccount) → ∃ e, r.snapshot = .error e) ∧
      ((∀ x, r.Asked (.receipt key.srcNid key.connSn) x → x.Unusable ReceiptAccount) →
        ∃ e, r.isReceived key = .error e) ∧
      ((∀ x, r.Asked (.orderFinished order.hash) x → x.Unusable OrderFinishedAccount) →
        ∃ e, r.isFinished order = .error e) ∧
      ((r.exchange escrow).Unusable OrderAccount → ∃ e, r.order? escrow = .error e) ∧
      (r.isReceived key = .ok false ↔ ∃ x, r.Asked (.receipt key.srcNid key.connSn) x ∧
        (x.LacksAccount ∨ ∃ a : ReceiptAccount, x.Holds a ∧ a.received = false)) ∧
      (r.isFinished order = .ok false ↔ ∃ x, r.Asked (.orderFinished order.hash) x ∧
        (x.LacksAccount ∨ ∃ a : OrderFinishedAccount, x.Holds a ∧ a.finished = false)) ∧
      (r.order? escrow = .ok none ↔ (r.exchange escrow).LacksAccount) ∧
      ((Text.toBytes key.srcNid).length ≤ 32 →
        Derived.Viable r.program.address (Purpose.receipt key.srcNid key.connSn).seeds →
        ∃ x, r.Asked (.receipt key.srcNid key.connSn) x ∧
          ∀ (a : ReceiptAccount) (e padding : Bytes), StoredAccount.toData a = .ok e →
            x.Sends (Base64.encode (e ++ padding)) → r.isReceived key = .ok a.received) ∧
      (Derived.Viable r.program.address (Purpose.orderFinished order.hash).seeds →
        ∃ x, r.Asked (.orderFinished order.hash) x ∧
          ∀ (a : OrderFinishedAccount) (e padding : Bytes), StoredAccount.toData a = .ok e →
            x.Sends (Base64.encode (e ++ padding)) → r.isFinished order = .ok a.finished) ∧
      (∀ (a : OrderAccount) (e padding : Bytes), StoredAccount.toData a = .ok e →
        (r.exchange escrow).Sends (Base64.encode (e ++ padding)) →
          r.order? escrow = .ok (some a.order)) ∧
      (Derived.Viable r.program.address Purpose.config.seeds →
        ∃ x, r.Asked .config x ∧
          ∀ (a : ConfigAccount) (e padding : Bytes), StoredAccount.toData a = .ok e →
            x.Sends (Base64.encode (e ++ padding)) →
              (a.protocolFee.toNat ≤ 10000 → r.snapshot = .ok
                { admin := a.admin, feeHandler := a.feeHandler, networkId := a.networkId,
                  protocolFee := a.protocolFee, depositId := a.depositId, connSn := a.connSn }) ∧
              (10000 < a.protocolFee.toNat →
                r.snapshot = .error (.fee (.invalidProtocolFee a.protocolFee)))) ∧
      ∀ s, r.snapshot = .ok s → s.protocolFee.toNat ≤ 10000 ∧
        ∀ (program : Program) (signer : Address) (filled : SwapOrder) (solverAddress : String)
          (e : FeeError), program.resolve (.fill signer filled solverAddress) s ≠ .error (.fee e) := by
  refine ⟨Reader.exists_error_of_asked, Reader.exists_error_of_asked, Reader.exists_error_of_asked,
    ?_, ?_, ?_, Reader.order?_eq_ok_none_iff, ?_, ?_, ?_, ?_, ?_⟩
  · intro h
    obtain ⟨e, herror⟩ := Reader.exists_error_of_unusable h
    exact ⟨e, bind_eq_error_iff.mpr (.inl herror)⟩
  · simp only [Reader.isReceived_eq_ok_iff, and_true]
  · simp only [Reader.isFinished_eq_ok_iff, and_true]
  · intro hlength hviable
    obtain ⟨x, hasked⟩ := Reader.exists_asked (Purpose.wellSized_receipt_iff.mpr hlength) hviable
    refine ⟨x, hasked, fun a e padding hdata hsends => ?_⟩
    exact Reader.isReceived_eq_ok_iff.mpr
      ⟨x, hasked, .inr ⟨a, holds_of_toData hdata padding hsends, rfl⟩⟩
  · intro hviable
    obtain ⟨x, hasked⟩ := Reader.exists_asked (Purpose.wellSized_orderFinished _) hviable
    refine ⟨x, hasked, fun a e padding hdata hsends => ?_⟩
    exact Reader.isFinished_eq_ok_iff.mpr
      ⟨x, hasked, .inr ⟨a, holds_of_toData hdata padding hsends, rfl⟩⟩
  · intro a e padding hdata hsends
    exact Reader.order?_eq_ok_some_iff.mpr ⟨a, holds_of_toData hdata padding hsends, rfl⟩
  · intro hviable
    obtain ⟨x, hasked⟩ := Reader.exists_asked Purpose.wellSized_config hviable
    refine ⟨x, hasked, fun a e padding hdata hsends => ⟨fun hrate => ?_, fun hrate => ?_⟩⟩
    · exact Reader.snapshot_eq_ok_iff.mpr
        ⟨x, hasked, a, holds_of_toData hdata padding hsends, hrate, rfl⟩
    · exact Reader.snapshot_of_rate_gt hasked (holds_of_toData hdata padding hsends) hrate
  · intro s hs
    obtain ⟨x, -, a, -, hrate, rfl⟩ := Reader.snapshot_eq_ok_iff.mp hs
    exact ⟨hrate, fun program signer filled solverAddress => Program.noFeeError_fill hrate⟩

/-- The reader of an endpoint that has replies for some addresses, given as text. -/
def Reader.ofReplies (program : Program) (replies : List (String × Reply)) : Reader where
  program := program
  send
    | .object [_, _, (_, .list [.text (some address), _]), _] =>
      (replies.lookup address).elim .failed fun reply => .answered (Json.encode reply)
    | _ => .failed

theorem Reader.asked_ofReplies_iff {program : Program} {replies : List (String × Reply)}
    {purpose : Purpose} {text : String} {reply : Reply} {x : Exchange}
    (htext : (program.derive purpose).map (fun d => d.address.toText) = .ok text)
    (hreply : replies.lookup text = some reply) :
    (ofReplies program replies).Asked purpose x ↔ x = .answered (Json.encode reply) := by
  obtain ⟨d, hderive, rfl⟩ := map_eq_ok_iff.mp htext
  have hexchange : (ofReplies program replies).exchange d.address = .answered (Json.encode reply) :=
    congrArg (fun found => found.elim Exchange.failed fun reply => .answered (Json.encode reply))
      hreply
  constructor
  · rintro ⟨d', hderive', rfl⟩
    obtain rfl : d = d' := Except.ok.inj (hderive.symm.trans hderive')
    exact hexchange
  · rintro rfl
    exact ⟨d, hderive, hexchange.symm⟩

/-- A receipt with padding, a mark that is not there, an error next to a result and settings with a
fee of one percent. -/
theorem reads_fail_safe_one_endpoint :
    let program : Program := ⟨Address.associatedTokenProgram⟩
    let receipt : Bytes := [39, 154, 73, 106, 80, 102, 145, 153, 1, 255]
    let config : Bytes :=
      [155, 12, 170, 224, 30, 250, 204, 130] ++ Address.systemProgram.toBytes ++
        Address.tokenProgram.toBytes ++ [1, 0, 0, 0, 98] ++ Bytes.ofNatLE 8 100 ++
        Bytes.ofNatLE 16 41 ++ Bytes.ofNatLE 16 9 ++ [255]
    let sent (d : Bytes) : SentData := ⟨String.ofList (Base64.encode (d ++ [0, 0])), "base64"⟩
    let replies : List (String × Reply) :=
      [("zypY9LbsqVdqYatnfLhqQAgaPF3nwTZMNUguMjzW5j9", ⟨some ⟨some (sent receipt)⟩, none⟩),
       ("89qg61tFsF4z6bMNjuhBiVJr8i3zFPdhNSMPTEt6bj5y", ⟨some ⟨none⟩, none⟩),
       ("11111111111111111111111111111111", ⟨some ⟨none⟩, some "behind"⟩),
       ("79LBqJQe86NQZgJJJxjKRYGS4mD36SqDUo5o3BAgrgbN", ⟨some ⟨some (sent config)⟩, none⟩)]
    let order : SwapOrder :=
      { id := 1, emitter := "", srcNid := "a", dstNid := "b", creator := "", destinationAddress := ""
        token := "", amount := 5, toToken := "", toAmount := 7, data := [] }
    let r := Reader.ofReplies program replies
    let s : Snapshot := ⟨Address.systemProgram, Address.tokenProgram, "b", 100, 41, 9⟩
    r.isReceived ⟨"a", 1⟩ = .ok true ∧ r.isFinished order = .ok false ∧
      (∃ e, r.order? Address.systemProgram = .error e) ∧ r.snapshot = .ok s ∧
      ∀ e, program.resolve (.fill Address.tokenProgram order "s") s ≠ .error (.fee e) := by
  intro program receipt config sent replies order r s
  have hreceipt : (program.derive (.receipt "a" 1)).map (fun d => d.address.toText) =
      .ok "zypY9LbsqVdqYatnfLhqQAgaPF3nwTZMNUguMjzW5j9" := by decide +kernel
  have hmark : (program.derive (.orderFinished order.hash)).map (fun d => d.address.toText) =
      .ok "89qg61tFsF4z6bMNjuhBiVJr8i3zFPdhNSMPTEt6bj5y" := by decide +kernel
  have hsettings : (program.derive .config).map (fun d => d.address.toText) =
      .ok "79LBqJQe86NQZgJJJxjKRYGS4mD36SqDUo5o3BAgrgbN" := by decide +kernel
  have hsends (d : Bytes) :
      (Exchange.answered (Json.encode (Reply.mk (some ⟨some (sent d)⟩) none))).Sends
        (Base64.encode (d ++ [0, 0])) :=
    ⟨_, sent d, decode_encode_reply _, rfl, rfl, String.toList_ofList⟩
  obtain ⟨-, -, -, herror, -, hfinished, -, hreceived, -, -, hconfig, hfill⟩ :=
    reads_fail_safe r ⟨"a", 1⟩ order Address.systemProgram
  have hsnapshot : r.snapshot = .ok s := by
    obtain ⟨x, hasked, h⟩ := hconfig (by decide +kernel)
    rw [Reader.asked_ofReplies_iff hsettings rfl] at hasked
    subst hasked
    let a : ConfigAccount := ⟨Address.systemProgram, Address.tokenProgram, "b", 100, 41, 9, 255⟩
    exact (h a config [0, 0] (by decide +kernel) (hsends config)).1 (by decide)
  refine ⟨?_, ?_, ?_, hsnapshot, ?_⟩
  · obtain ⟨x, hasked, h⟩ := hreceived (by decide +kernel) (by decide +kernel)
    rw [Reader.asked_ofReplies_iff hreceipt rfl] at hasked
    subst hasked
    exact h ⟨true, 255⟩ receipt [0, 0] (by decide +kernel) (hsends receipt)
  · refine hfinished.mpr ⟨_, (Reader.asked_ofReplies_iff hmark rfl).mpr rfl, .inl ?_⟩
    exact ⟨_, decode_encode_reply _, rfl, rfl⟩
  · exact herror (.refused (decode_encode_reply ⟨some ⟨none⟩, some "behind"⟩) rfl)
  · exact (hfill s hsnapshot).2 program Address.tokenProgram order "s"

end CrossSwap
