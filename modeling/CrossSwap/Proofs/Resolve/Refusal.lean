import CrossSwap.Proofs.Order.Fee
import CrossSwap.Proofs.Relay.Envelope
import CrossSwap.Proofs.Resolve.Accounts
import CrossSwap.Proofs.Resolve.Requirements

/-!
# Why requests are refused

Where the searches for the bumps succeed, the conditions of a request alone decide: it resolves if
it meets them all and is refused for the first that it does not meet.
-/

namespace CrossSwap

open Derived

theorem decidedBy_parseAddress (field value : String) :
    DecidedBy [.address field value] (parseAddress field value) := by
  rw [parseAddress]
  cases htext : Address.ofText? value with
  | none => exact .refused _ (by simp [firstRefusal, Condition.address, htext])
  | some a => exact .met a (by simp [firstRefusal, Condition.address, htext])

namespace Asset

theorem namesAsset_iff {value : String} : NamesAsset value ↔ (ofText? value).isSome := by
  by_cases hnative : value = nativeAsset
  · simp [NamesAsset, ofText?, hnative]
  · simp [NamesAsset, ofText?, hnative]

theorem parse_eq (field value : String) :
    parse field value = (ofText? value).elim (.error (.unsupportedAsset field value)) .ok := by
  by_cases hnative : value = nativeAsset
  · simp [parse, ofText?, hnative]
  · rw [parse, if_neg hnative, ofText?, if_neg hnative]
    cases Address.ofText? value with
    | none => rfl
    | some mint => rfl

theorem ofText?_of_parse {field value : String} {a : Asset} (h : parse field value = .ok a) :
    ofText? value = some a := by
  rw [parse_eq] at h
  cases htext : ofText? value with
  | none =>
      rw [htext] at h
      cases h
  | some b =>
      rw [htext] at h
      cases h
      rfl

end Asset

theorem decidedBy_parseAsset (field value : String) :
    DecidedBy [.asset field value] (Asset.parse field value) := by
  rw [Asset.parse_eq]
  cases htext : Asset.ofText? value with
  | none =>
      exact .refused _ (by simp [firstRefusal, Condition.asset, Asset.namesAsset_iff, htext])
  | some a => exact .met a (by simp [firstRefusal, Condition.asset, Asset.namesAsset_iff, htext])

theorem decidedBy_feeSplit (amount : Word128) (rate : Word64) :
    DecidedBy [.acceptedRate rate] ((FeeSplit.of amount rate).mapError ResolveError.fee) := by
  by_cases hrate : rate.toNat ≤ 10000
  · obtain ⟨split, hsplit, -⟩ := exists_feeSplit amount hrate
    rw [hsplit]
    exact .met split (by simp [firstRefusal, Condition.acceptedRate, hrate])
  · have herror : FeeSplit.of amount rate = .error (.invalidProtocolFee rate) :=
      feeSplit_eq_error_iff.mpr (fee_eq_error_iff.mpr ⟨Nat.not_le.mp hrate, rfl⟩)
    rw [herror]
    exact .refused _ (by simp [firstRefusal, Condition.acceptedRate, hrate])

namespace Program

open AccountEntry

variable {program : Program} {signer creator owner solver : Address} {order : SwapOrder}
  {asset : Asset} {snapshot : Snapshot} {envelope : Envelope}

/-! ## Addresses -/

theorem account_of_derive_error {purpose : Purpose} {e : DerivationError}
    (h : program.derive purpose = .error e) : program.account purpose = .error (.derivation e) := by
  rw [account, h]

theorem exists_config (h : (program.searchFor .config).Succeeds) :
    ∃ config, program.account .config = .ok config :=
  exists_account Purpose.wellSized_config h

theorem exists_finished {hash : Digest} (h : (program.searchFor (.orderFinished hash)).Succeeds) :
    ∃ finished, program.account (.orderFinished hash) = .ok finished :=
  exists_account (Purpose.wellSized_orderFinished hash) h

theorem exists_vault (h : ∀ s ∈ program.vaultSearches owner asset, s.Succeeds) :
    ∃ vault, program.vault asset = .ok vault := by
  cases asset with
  | native =>
      have hsearch : (program.searchFor .vaultNative).Succeeds := h _ (List.mem_singleton.mpr rfl)
      simp only [vault]
      exact exists_account Purpose.wellSized_vaultNative hsearch
  | token mint =>
      have hsearch : (program.searchFor (.vaultToken mint)).Succeeds := h _ List.mem_cons_self
      simp only [vault]
      exact exists_account (Purpose.wellSized_vaultToken mint) hsearch

/-- The name of a network is the one seed that may be too long. -/
theorem decidedBy_account {purpose : Purpose} {front back : List Seed} {name nid : String}
    (hseeds : purpose.seeds = front ++ ⟨name, Text.toBytes nid⟩ :: back)
    (hfew : purpose.seeds.length < maxSeeds)
    (hfront : ∀ s ∈ front, s.bytes.length ≤ maxSeedLength)
    (hback : ∀ s ∈ back, s.bytes.length ≤ maxSeedLength)
    (h : (program.searchFor purpose).Succeeds) :
    DecidedBy [.networkSeed name nid] (program.account purpose) := by
  by_cases hlength : (Text.toBytes nid).length ≤ 32
  · have hsized : WellSized purpose.seeds := by
      refine ⟨hfew, ?_⟩
      rw [hseeds, List.forall_mem_append, List.forall_mem_cons]
      exact ⟨hfront, hlength, hback⟩
    obtain ⟨a, ha⟩ := exists_account hsized h
    rw [ha]
    exact .met a (by simp [firstRefusal, Condition.networkSeed, hlength])
  · have hderive : program.derive purpose =
        .error (.seedTooLong name (Text.toBytes nid).length) := by
      rw [hseeds] at hfew
      rw [derive, hseeds]
      exact derive_of_long front hfew hfront (Nat.not_le.mp hlength)
    rw [account_of_derive_error hderive]
    exact .refused _ (by simp [firstRefusal, Condition.networkSeed, hlength])

theorem decidedBy_escrow
    (h : (program.searchFor
      (.order creator order.dstNid order.amount order.toAmount)).Succeeds) :
    DecidedBy [.networkSeed "dst_nid" order.dstNid] (program.escrow creator order) := by
  have hfront : ∀ s ∈ [Seed.mk "creator" creator.toBytes], s.bytes.length ≤ maxSeedLength := by
    simp [creator.length_toBytes, maxSeedLength]
  exact decidedBy_account rfl (by simp [Purpose.seeds, maxSeeds]) hfront
    (by simp [seedNumber, maxSeedLength]) h

theorem decidedBy_receipt {srcNid : String} {connSn : Word128}
    (h : (program.searchFor (.receipt srcNid connSn)).Succeeds) :
    DecidedBy [.networkSeed "src_nid" srcNid] (program.account (.receipt srcNid connSn)) := by
  have hfront : ∀ s ∈ [Seed.mk "receipt" (Text.toBytes "receipt")],
      s.bytes.length ≤ maxSeedLength := by decide
  exact decidedBy_account rfl (by simp [Purpose.seeds, maxSeeds]) hfront
    (by simp [seedNumber, maxSeedLength]) h

/-! ## Blocks of accounts -/

theorem exists_wallet {mint : Address}
    (h : ∀ s ∈ program.vaultSearches owner (.token mint), s.Succeeds) :
    ∃ wallet, tokenAccount owner mint = .ok wallet := by
  have hsearch : (walletSearch owner mint).Succeeds :=
    h _ (List.mem_cons_of_mem _ List.mem_cons_self)
  exact exists_tokenAccount hsearch

theorem exists_depositAccounts (h : ∀ s ∈ program.vaultSearches owner asset, s.Succeeds) :
    ∃ entries, program.depositAccounts owner asset = .ok entries := by
  obtain ⟨vault, hvault⟩ := exists_vault h
  cases asset with
  | native => exact ⟨_, depositAccounts_eq_ok_iff.mpr ⟨vault, hvault, rfl⟩⟩
  | token mint =>
      obtain ⟨wallet, hwallet⟩ := exists_wallet h
      exact ⟨_, depositAccounts_eq_ok_iff.mpr ⟨vault, hvault, wallet, hwallet, rfl⟩⟩

theorem exists_releaseAccounts (h : ∀ s ∈ program.vaultSearches solver asset, s.Succeeds) :
    ∃ entries, program.releaseAccounts solver asset = .ok entries := by
  obtain ⟨vault, hvault⟩ := exists_vault h
  cases asset with
  | native => exact ⟨_, releaseAccounts_eq_ok_iff.mpr ⟨vault, hvault, rfl⟩⟩
  | token mint =>
      obtain ⟨wallet, hwallet⟩ := exists_wallet h
      exact ⟨_, releaseAccounts_eq_ok_iff.mpr ⟨vault, hvault, wallet, hwallet, rfl⟩⟩

theorem exists_paymentAccounts {feeHandler destination payer : Address}
    (h : ∀ s ∈ paymentSearches [feeHandler, destination, payer] asset, s.Succeeds) :
    ∃ entries, program.paymentAccounts feeHandler destination payer asset = .ok entries := by
  cases asset with
  | native => exact ⟨_, paymentAccounts_eq_ok_iff.mpr rfl⟩
  | token mint =>
      simp only [paymentSearches, List.map_cons, List.map_nil, List.forall_mem_cons] at h
      obtain ⟨hfee, hdestination, hpayer, -⟩ := h
      obtain ⟨feeWallet, hfee⟩ := exists_tokenAccount hfee
      obtain ⟨destinationWallet, hdestination⟩ := exists_tokenAccount hdestination
      obtain ⟨payerWallet, hpayer⟩ := exists_tokenAccount hpayer
      exact ⟨_, paymentAccounts_eq_ok_iff.mpr ⟨feeWallet, hfee, destinationWallet, hdestination,
        payerWallet, hpayer, rfl⟩⟩

theorem succeeds_of_escrowSearches {field : String}
    (h : ∀ s ∈ program.escrowSearches order, s.Succeeds)
    (hcreator : parseAddress field order.creator = .ok creator) :
    (program.searchFor (.order creator order.dstNid order.amount order.toAmount)).Succeeds := by
  apply h
  rw [escrowSearches, parseAddress_eq_ok_iff.mp hcreator]
  exact List.mem_singleton.mpr rfl

theorem succeeds_of_asset {field value : String} {searches : Asset → List BumpSearch}
    (h : ∀ s ∈ (Asset.ofText? value).toList.flatMap searches, s.Succeeds)
    (hasset : Asset.parse field value = .ok asset) : ∀ s ∈ searches asset, s.Succeeds := by
  intro s hs
  apply h
  rw [Asset.ofText?_of_parse hasset]
  exact List.mem_flatMap.mpr ⟨asset, List.mem_singleton.mpr rfl, hs⟩

theorem succeeds_of_address {field value : String} {a : Address}
    {searches : Address → List BumpSearch}
    (h : ∀ s ∈ (Address.ofText? value).toList.flatMap searches, s.Succeeds)
    (haddress : parseAddress field value = .ok a) : ∀ s ∈ searches a, s.Succeeds := by
  intro s hs
  apply h
  rw [parseAddress_eq_ok_iff.mp haddress]
  exact List.mem_flatMap.mpr ⟨a, List.mem_singleton.mpr rfl, hs⟩

theorem decidedBy_release {field solverAddress : String}
    (h : ∀ s ∈ program.releaseSearches order solverAddress, s.Succeeds)
    (hsolver : parseAddress field solverAddress = .ok solver) :
    DecidedBy (releaseConditions order) (program.release order solver) := by
  rw [releaseSearches, List.forall_mem_append, List.forall_mem_cons] at h
  obtain ⟨⟨hconfig, hescrow⟩, hvault⟩ := h
  rw [releaseConditions, release]
  refine DecidedBy.cons (decidedBy_parseAddress _ _) fun creator hcreator => ?_
  refine DecidedBy.cons (decidedBy_parseAsset _ _) fun asset hasset => ?_
  refine DecidedBy.skip (exists_config hconfig) fun config _ => ?_
  have hsearch := succeeds_of_escrowSearches hescrow hcreator
  refine DecidedBy.cons (decidedBy_escrow hsearch) fun escrow _ => ?_
  have hmoved := succeeds_of_asset (succeeds_of_address hvault hsolver) hasset
  exact DecidedBy.skip (exists_releaseAccounts hmoved) fun moved _ => .pure _

theorem decidedBy_ownRelease {solverAddress : String}
    (h : order.isSameNetwork = true →
      ∀ s ∈ program.releaseSearches order solverAddress, s.Succeeds) :
    DecidedBy (if order.isSameNetwork then
        .address "solver_address" solverAddress :: releaseConditions order else [])
      (program.ownRelease order solverAddress) := by
  rw [ownRelease]
  by_cases hsame : order.isSameNetwork = true
  · rw [if_pos hsame, if_pos hsame]
    refine DecidedBy.cons (decidedBy_parseAddress _ _) fun solver hsolver => ?_
    exact decidedBy_release (h hsame) hsolver
  · rw [if_neg hsame, if_neg hsame]
    exact .met [] rfl

theorem decidedBy_cancelMark
    (h : order.isSameNetwork = true →
      (program.searchFor (.orderFinished order.hash)).Succeeds) :
    DecidedBy (if order.isSameNetwork then [.assignedId order] else [])
      (program.cancelMark order) := by
  rw [cancelMark]
  by_cases hsame : order.isSameNetwork = true
  · rw [if_pos hsame, if_pos hsame]
    refine DecidedBy.cons (.require Iff.rfl) fun _ _ => ?_
    exact DecidedBy.skip (exists_finished (h hsame)) fun finished _ => .pure _
  · rw [if_neg hsame, if_neg hsame]
    exact .met _ rfl

theorem decidedBy_settleAccounts {config : Address}
    (h : ∀ s ∈ program.settleSearches envelope, s.Succeeds) :
    DecidedBy (settleConditions envelope) (program.settleAccounts config envelope) := by
  rw [settleAccounts, settleConditions]
  rw [settleSearches] at h
  cases hresolution : envelope.resolution with
  | fill f =>
      rw [hresolution] at h
      refine DecidedBy.cons (.require decide_eq_true_iff) fun _ _ => ?_
      refine DecidedBy.cons (decidedBy_parseAddress _ _) fun solver hsolver => ?_
      exact decidedBy_release h hsolver
  | cancel c =>
      rw [hresolution] at h
      refine DecidedBy.cons (.require decide_eq_true_iff) fun _ _ => ?_
      refine DecidedBy.cons (.require Iff.rfl) fun _ _ => ?_
      exact DecidedBy.skip (exists_finished (h _ (List.mem_singleton.mpr rfl))) fun _ _ => .pure _

/-! ## Requests -/

/-- The creator of an order signs for it. -/
theorem decidedBy_require_signer (hcreator : parseAddress "creator" order.creator = .ok creator) :
    DecidedBy [.signedByCreator signer order]
      (require (creator = signer) ResolveError.signerMismatch) := by
  have htext := parseAddress_eq_ok_iff.mp hcreator
  exact .require (by simp [Condition.signedByCreator, htext])

theorem decidedBy_resolveCreate (h : program.FindsBumps (.create signer order) snapshot) :
    DecidedBy (createConditions signer order) (program.resolveCreate signer order) := by
  rw [FindsBumps, searches, List.forall_mem_append, List.forall_mem_cons] at h
  obtain ⟨⟨hconfig, hescrow⟩, hvault⟩ := h
  rw [createConditions, resolveCreate]
  refine DecidedBy.cons (decidedBy_parseAddress _ _) fun creator hcreator => ?_
  refine DecidedBy.cons (decidedBy_require_signer hcreator) fun _ _ => ?_
  refine DecidedBy.cons (decidedBy_parseAsset _ _) fun asset hasset => ?_
  refine DecidedBy.skip (exists_config hconfig) fun config _ => ?_
  have hsearch := succeeds_of_escrowSearches hescrow hcreator
  refine DecidedBy.cons (decidedBy_escrow hsearch) fun _ _ => ?_
  exact DecidedBy.skip (exists_depositAccounts (succeeds_of_asset hvault hasset)) fun _ _ => .pure _

theorem decidedBy_resolveFill {solverAddress : String}
    (h : program.FindsBumps (.fill signer order solverAddress) snapshot) :
    DecidedBy (fillConditions order solverAddress snapshot)
      (program.resolveFill signer order solverAddress snapshot) := by
  rw [FindsBumps, searches, List.forall_mem_append, List.forall_mem_cons, List.forall_mem_cons] at h
  obtain ⟨⟨hconfig, hfinished, hpayment⟩, hrelease⟩ := h
  have hown : order.isSameNetwork = true →
      ∀ s ∈ program.releaseSearches order solverAddress, s.Succeeds := by
    intro hsame
    rw [if_pos hsame] at hrelease
    exact hrelease
  rw [fillConditions, resolveFill]
  refine DecidedBy.cons (.require Iff.rfl) fun _ _ => ?_
  refine DecidedBy.cons (.require decide_eq_true_iff) fun _ _ => ?_
  refine DecidedBy.cons (.require decide_eq_true_iff) fun _ _ => ?_
  refine DecidedBy.cons (decidedBy_parseAddress _ _) fun destination hdestination => ?_
  refine DecidedBy.cons (decidedBy_parseAsset _ _) fun asset hasset => ?_
  refine DecidedBy.cons (decidedBy_feeSplit _ _) fun split _ => ?_
  refine DecidedBy.skip (exists_config hconfig) fun config _ => ?_
  refine DecidedBy.skip (exists_finished hfinished) fun finished _ => ?_
  have hpaid := succeeds_of_asset (succeeds_of_address hpayment hdestination) hasset
  refine DecidedBy.skip (exists_paymentAccounts hpaid) fun payment _ => ?_
  exact (decidedBy_ownRelease hown).map fun released => ⟨_, rfl⟩

theorem decidedBy_resolveCancel (h : program.FindsBumps (.cancel signer order) snapshot) :
    DecidedBy (cancelConditions signer order) (program.resolveCancel signer order) := by
  rw [FindsBumps, searches, List.forall_mem_append, List.forall_mem_cons] at h
  obtain ⟨⟨hconfig, hescrow⟩, hfinished⟩ := h
  have hmark : order.isSameNetwork = true →
      (program.searchFor (.orderFinished order.hash)).Succeeds := by
    intro hsame
    rw [if_pos hsame] at hfinished
    exact hfinished _ (List.mem_singleton.mpr rfl)
  rw [cancelConditions, resolveCancel]
  refine DecidedBy.cons (decidedBy_parseAddress _ _) fun creator hcreator => ?_
  refine DecidedBy.cons (decidedBy_require_signer hcreator) fun _ _ => ?_
  refine DecidedBy.skip (exists_config hconfig) fun config _ => ?_
  have hsearch := succeeds_of_escrowSearches hescrow hcreator
  refine DecidedBy.cons (decidedBy_escrow hsearch) fun _ _ => ?_
  exact (decidedBy_cancelMark hmark).map fun mark => ⟨_, rfl⟩

theorem decidedBy_resolveEnvelope {msg : Bytes}
    (hconfig : (program.searchFor .config).Succeeds)
    (hreceipt : (program.searchFor
      (.receipt envelope.key.srcNid envelope.key.connSn)).Succeeds)
    (h : ∀ s ∈ program.settleSearches envelope, s.Succeeds) :
    DecidedBy (deliveryConditions signer snapshot envelope)
      (program.resolveEnvelope signer snapshot envelope msg) := by
  rw [deliveryConditions, resolveEnvelope]
  refine DecidedBy.cons (.require decide_eq_true_iff) fun _ _ => ?_
  refine DecidedBy.skip (exists_config hconfig) fun config _ => ?_
  refine DecidedBy.cons (decidedBy_receipt hreceipt) fun receipt _ => ?_
  exact (decidedBy_settleAccounts h).map fun settled => ⟨_, rfl⟩

/-- A request resolves if it meets its conditions, and is refused for the first that it does not
meet. -/
theorem decidedBy_resolve {request : Request} (h : program.FindsBumps request snapshot) :
    DecidedBy (request.conditions snapshot) (program.resolve request snapshot) := by
  cases request with
  | create signer order => exact decidedBy_resolveCreate h
  | fill signer order solverAddress => exact decidedBy_resolveFill h
  | cancel signer order => exact decidedBy_resolveCancel h
  | receiveMessage signer srcNid connSn msg =>
      rw [FindsBumps, searches] at h
      rw [Request.conditions, resolve]
      cases hdecode : Envelope.decode srcNid connSn msg with
      | error e => exact .refused _ rfl
      | ok envelope =>
          rw [hdecode, List.forall_mem_cons, List.forall_mem_cons] at h
          obtain ⟨hconfig, hreceipt, hsettle⟩ := h
          obtain ⟨hkey, -⟩ := Envelope.decode_eq_ok_iff.mp hdecode
          have hkeyed : (program.searchFor
              (.receipt envelope.key.srcNid envelope.key.connSn)).Succeeds := by
            rw [hkey]
            exact hreceipt
          exact decidedBy_resolveEnvelope hconfig hkeyed hsettle

end Program

end CrossSwap
