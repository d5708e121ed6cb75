import CrossSwap.Proofs.Resolve.Accounts
import CrossSwap.Proofs.Resolve.Request
import CrossSwap.Resolve.Admin

/-!
# Who signs an instruction

Every instruction is signed by whoever asks for it and by nobody else.  A creator alone creates and
cancels orders, and the admin alone delivers messages and changes the settings.
-/

namespace CrossSwap

/-! ## One signer in a list of accounts -/

/-- No account of the list signs. -/
def Unsigned (entries : List AccountEntry) : Prop :=
  ∀ entry ∈ entries, entry.isSigner = false

/-- The account at one place of the list is the signer's own, is written to and signs, and no other
account of the list signs. -/
structure SoleSigner (entries : List AccountEntry) (place : Nat) (signer : Address) : Prop where
  getElem?_eq : entries[place]? = some ⟨signer, true, true⟩
  eq_place : ∀ i entry, entries[i]? = some entry → entry.isSigner = true → i = place

namespace AccountEntry

@[simp] theorem isSigner_writable (a : Address) : (writable a).isSigner = false := rfl

@[simp] theorem isSigner_readonly (a : Address) : (readonly a).isSigner = false := rfl

end AccountEntry

@[simp] theorem unsigned_nil : Unsigned [] := by
  simp [Unsigned]

@[simp] theorem unsigned_cons_iff {entry : AccountEntry} {entries : List AccountEntry} :
    Unsigned (entry :: entries) ↔ entry.isSigner = false ∧ Unsigned entries :=
  List.forall_mem_cons

@[simp] theorem unsigned_append_iff {front back : List AccountEntry} :
    Unsigned (front ++ back) ↔ Unsigned front ∧ Unsigned back :=
  List.forall_mem_append

theorem unsigned_map_writable (addresses : List Address) :
    Unsigned (addresses.map AccountEntry.writable) := by
  intro entry hentry
  obtain ⟨a, -, rfl⟩ := List.mem_map.mp hentry
  rfl

theorem SoleSigner.append_cons {front back : List AccountEntry} {signer : Address}
    (hfront : Unsigned front) (hback : Unsigned back) :
    SoleSigner (front ++ ⟨signer, true, true⟩ :: back) front.length signer where
  getElem?_eq := by simp
  eq_place := by
    intro i entry hentry hsigns
    rcases Nat.lt_trichotomy i front.length with hlt | heq | hgt
    · rw [List.getElem?_append_left hlt] at hentry
      have hunsigned := hfront entry (List.mem_of_getElem? hentry)
      rw [hunsigned] at hsigns
      cases hsigns
    · exact heq
    · obtain ⟨n, rfl⟩ := Nat.exists_eq_add_of_lt hgt
      rw [List.getElem?_append_right (by omega)] at hentry
      have hplace : front.length + n + 1 - front.length = n + 1 := by omega
      rw [hplace, List.getElem?_cons_succ] at hentry
      have hunsigned := hback entry (List.mem_of_getElem? hentry)
      rw [hunsigned] at hsigns
      cases hsigns

theorem SoleSigner.cons {entries : List AccountEntry} {signer : Address}
    (h : Unsigned entries) : SoleSigner (⟨signer, true, true⟩ :: entries) 0 signer :=
  .append_cons unsigned_nil h

/-- Who may ask: the creator for an order, the admin for a message, and anyone for a fill. -/
def Request.Authorized (snapshot : Snapshot) : Request → Prop
  | create signer order => Address.ofText? order.creator = some signer
  | fill .. => True
  | cancel signer order => Address.ofText? order.creator = some signer
  | receiveMessage signer .. => snapshot.admin = signer

namespace Program

open AccountEntry

variable {program : Program} {signer feeHandler destination payer solver config : Address}
  {order : SwapOrder} {asset : Asset} {snapshot : Snapshot} {envelope : Envelope}
  {request : Request} {instruction : Instruction} {resolved : Resolved} {fee : Word64}
  {entries : List AccountEntry}

/-! ## The blocks of accounts hold no signer -/

@[simp] theorem isSigner_unused : program.unused.isSigner = false := rfl

@[simp] theorem isSigner_unusedWritable : program.unusedWritable.isSigner = false := rfl

theorem unsigned_depositAccounts (h : program.depositAccounts signer asset = .ok entries) :
    Unsigned entries := by
  obtain ⟨vault, -, hentries⟩ := depositAccounts_eq_ok_iff.mp h
  cases asset with
  | native =>
      rw [hentries]
      simp
  | token mint =>
      obtain ⟨wallet, -, rfl⟩ := hentries
      simp

theorem unsigned_paymentAccounts
    (h : program.paymentAccounts feeHandler destination payer asset = .ok entries) :
    Unsigned entries := by
  rw [paymentAccounts_eq_ok_iff] at h
  cases asset with
  | native =>
      rw [h]
      simp
  | token mint =>
      obtain ⟨feeWallet, -, destinationWallet, -, payerWallet, -, rfl⟩ := h
      simp

theorem unsigned_release (h : program.release order solver = .ok entries) : Unsigned entries := by
  obtain ⟨addresses, -, rfl⟩ := exists_addresses_of_release h
  exact unsigned_map_writable addresses

theorem unsigned_ownRelease {solverAddress : String}
    (h : program.ownRelease order solverAddress = .ok entries) : Unsigned entries := by
  rw [ownRelease_eq_ok_iff] at h
  split at h
  · obtain ⟨solver, -, hrelease⟩ := h
    exact unsigned_release hrelease
  · rw [h]
    exact unsigned_nil

theorem isSigner_cancelMark {mark : AccountEntry} (h : program.cancelMark order = .ok mark) :
    mark.isSigner = false := by
  rw [cancelMark_eq_ok_iff] at h
  split at h
  · obtain ⟨-, finished, -, rfl⟩ := h
    rfl
  · rw [h]
    rfl

theorem unsigned_settleAccounts (h : program.settleAccounts config envelope = .ok entries) :
    Unsigned entries := by
  cases hresolution : envelope.resolution with
  | fill fill =>
      obtain ⟨-, solver, -, hrelease⟩ := (settleAccounts_fill_eq_ok_iff hresolution).mp h
      exact unsigned_release hrelease
  | cancel cancel =>
      obtain ⟨-, -, finished, -, rfl⟩ := (settleAccounts_cancel_eq_ok_iff hresolution).mp h
      simp

/-! ## Requests -/

theorem soleSigner_of_resolve (h : program.resolve request snapshot = .ok resolved) :
    SoleSigner resolved.accounts 0 request.signer := by
  cases request with
  | create signer order =>
      obtain ⟨creator, -, -, asset, -, config, -, escrow, -, deposit, hdeposit, rfl⟩ :=
        resolveCreate_eq_ok_iff.mp h
      exact .cons (by simp [unsigned_depositAccounts hdeposit])
  | fill signer order solverAddress =>
      obtain ⟨-, -, -, destination, -, asset, -, settlement, -, config, -, finished, -, payment,
        hpayment, released, hreleased, rfl⟩ := resolveFill_eq_ok_iff.mp h
      exact .cons (by
        simp [unsigned_paymentAccounts hpayment, unsigned_ownRelease hreleased])
  | cancel signer order =>
      obtain ⟨creator, -, -, config, -, escrow, -, mark, hmark, rfl⟩ :=
        resolveCancel_eq_ok_iff.mp h
      exact .cons (by simp [isSigner_cancelMark hmark])
  | receiveMessage signer srcNid connSn msg =>
      obtain ⟨envelope, -, hresolve⟩ := resolve_receiveMessage_eq_ok_iff.mp h
      obtain ⟨-, config, -, receipt, -, settled, hsettled, rfl⟩ :=
        resolveEnvelope_eq_ok_iff.mp hresolve
      exact .cons (by simp [unsigned_settleAccounts hsettled])

theorem authorized_of_resolve (h : program.resolve request snapshot = .ok resolved) :
    request.Authorized snapshot := by
  cases request with
  | create signer order =>
      obtain ⟨creator, hcreator, rfl, -⟩ := resolveCreate_eq_ok_iff.mp h
      exact parseAddress_eq_ok_iff.mp hcreator
  | fill signer order solverAddress => exact trivial
  | cancel signer order =>
      obtain ⟨creator, hcreator, rfl, -⟩ := resolveCancel_eq_ok_iff.mp h
      exact parseAddress_eq_ok_iff.mp hcreator
  | receiveMessage signer srcNid connSn msg =>
      obtain ⟨envelope, -, hresolve⟩ := resolve_receiveMessage_eq_ok_iff.mp h
      obtain ⟨hadmin, -⟩ := resolveEnvelope_eq_ok_iff.mp hresolve
      exact hadmin

/-! ## Settings -/

theorem setUp_eq_ok_iff {networkId : String} :
    program.setUp signer networkId feeHandler = .ok resolved ↔
      ∃ config, program.account .config = .ok config ∧
        ∃ vault, program.account .vaultNative = .ok vault ∧
          resolved = {
            instruction := .setUp networkId feeHandler
            accounts :=
              [writable config, writable vault, .signer signer, readonly Address.systemProgram]
            settlement := none } := by
  simp only [setUp, bind_eq_ok_iff, pure_eq_ok_iff]

theorem changeSettings_eq_ok_iff :
    program.changeSettings snapshot signer instruction = .ok resolved ↔
      snapshot.admin = signer ∧
        ∃ config, program.account .config = .ok config ∧
          resolved =
            { instruction, accounts := [writable config, .signer signer], settlement := none } := by
  simp only [changeSettings, bind_eq_ok_iff, require_eq_ok_iff, pure_eq_ok_iff, exists_const]

theorem setProtocolFee_eq_ok_iff :
    program.setProtocolFee snapshot signer fee = .ok resolved ↔
      fee.toNat ≤ feeDenominator ∧
        program.changeSettings snapshot signer (.setProtocolFee fee) = .ok resolved := by
  simp only [setProtocolFee, bind_eq_ok_iff, mapError_eq_ok_iff, checkRate_eq_ok_iff, exists_const]

theorem soleSigner_of_setUp {networkId : String}
    (h : program.setUp signer networkId feeHandler = .ok resolved) :
    SoleSigner resolved.accounts 2 signer := by
  obtain ⟨config, -, vault, -, rfl⟩ := setUp_eq_ok_iff.mp h
  have hfront : Unsigned [writable config, writable vault] := by simp
  exact .append_cons hfront (by simp)

theorem soleSigner_of_changeSettings
    (h : program.changeSettings snapshot signer instruction = .ok resolved) :
    SoleSigner resolved.accounts 1 signer ∧ snapshot.admin = signer := by
  obtain ⟨hadmin, config, -, rfl⟩ := changeSettings_eq_ok_iff.mp h
  have hfront : Unsigned [writable config] := by simp
  exact ⟨.append_cons hfront unsigned_nil, hadmin⟩

/-- Whatever is resolved is signed by one account, at a fixed place, and this signer had the
authority to ask for it. -/
theorem signed_by_authority (program : Program) (snapshot : Snapshot) :
    (∀ request resolved, program.resolve request snapshot = .ok resolved →
      SoleSigner resolved.accounts 0 request.signer ∧ request.Authorized snapshot) ∧
      (∀ signer networkId feeHandler resolved,
        program.setUp signer networkId feeHandler = .ok resolved →
          SoleSigner resolved.accounts 2 signer) ∧
      (∀ signer account resolved, program.setAdmin snapshot signer account = .ok resolved →
        SoleSigner resolved.accounts 1 signer ∧ snapshot.admin = signer) ∧
      (∀ signer fee resolved, program.setProtocolFee snapshot signer fee = .ok resolved →
        (SoleSigner resolved.accounts 1 signer ∧ snapshot.admin = signer) ∧ fee.toNat ≤ 10000) ∧
      ∀ signer feeHandler resolved,
        program.setFeeHandler snapshot signer feeHandler = .ok resolved →
          SoleSigner resolved.accounts 1 signer ∧ snapshot.admin = signer := by
  refine ⟨?_, ?_, ?_, ?_, ?_⟩
  · intro request resolved h
    exact ⟨soleSigner_of_resolve h, authorized_of_resolve h⟩
  · intro signer networkId feeHandler resolved h
    exact soleSigner_of_setUp h
  · intro signer account resolved h
    exact soleSigner_of_changeSettings h
  · intro signer fee resolved h
    obtain ⟨hfee, hchange⟩ := setProtocolFee_eq_ok_iff.mp h
    exact ⟨soleSigner_of_changeSettings hchange, hfee⟩
  · intro signer feeHandler resolved h
    exact soleSigner_of_changeSettings h

/-- One address is creator, admin and fee handler, and signs once. -/
theorem signed_by_authority_one_address :
    let signer := Address.tokenProgram
    let program : Program := ⟨Address.associatedTokenProgram⟩
    let order : SwapOrder :=
      { id := 0, emitter := "", srcNid := "", dstNid := "b"
        creator := "TokenkegQfeZyiNwAJbNbGKPFXCWuBvf9Ss623VQ5DA", destinationAddress := ""
        token := nativeAsset, amount := 5, toToken := "", toAmount := 7, data := [] }
    let snapshot : Snapshot := ⟨signer, signer, "a", 0, 0, 0⟩
    ∃ created changed, program.resolve (.create signer order) snapshot = .ok created ∧
      program.setProtocolFee snapshot signer 10000 = .ok changed ∧
        SoleSigner created.accounts 0 signer ∧ Address.ofText? order.creator = some signer ∧
          SoleSigner changed.accounts 1 signer ∧
          created.accounts[0]? = some ⟨signer, true, true⟩ ∧
          changed.accounts[1]? = some ⟨signer, true, true⟩ := by
  intro signer program order snapshot
  have hcreate : (program.resolve (.create signer order) snapshot).isOk = true := by
    decide +kernel
  have hchange : (program.setProtocolFee snapshot signer 10000).isOk = true := by decide +kernel
  obtain ⟨created, hcreated⟩ := exists_eq_ok_of_isOk hcreate
  obtain ⟨changed, hchanged⟩ := exists_eq_ok_of_isOk hchange
  obtain ⟨hrequests, -, -, hfee, -⟩ := signed_by_authority program snapshot
  obtain ⟨hsigner, hcreator⟩ := hrequests (.create signer order) created hcreated
  obtain ⟨⟨hsigner', -⟩, -⟩ := hfee signer 10000 changed hchanged
  exact ⟨created, changed, hcreated, hchanged, hsigner, hcreator, hsigner', hsigner.getElem?_eq,
    hsigner'.getElem?_eq⟩

end Program

end CrossSwap
