import CrossSwap.Proofs.Resolve.Release

/-!
# The escrow from deposit to release

What a creation deposits is reached again by the cancellation of the stored order and by the
delivery of its confirmed fill: they name the same escrow, and the delivery pays from the vault that
the deposit went to.
-/

namespace CrossSwap

open Derived

theorem successor_ne_zero (n : Word128) : successor n ≠ 0 := by
  rw [successor]
  split
  · rename_i hall
    rw [hall]
    decide
  · rename_i hall
    intro hzero
    have hlast : n = -1 := by bv_omega
    exact hall (hlast.trans BitVec.neg_one_eq_allOnes)

theorem SwapOrder.hasId_stored (order : SwapOrder) (snapshot : Snapshot) (program : Program) :
    (order.stored snapshot program).hasId = true :=
  bne_iff_ne.mpr (successor_ne_zero snapshot.depositId)

namespace Asset

/-- The place of the vault among the accounts of a creation. -/
def depositPlace : Asset → Nat
  | .native => 4
  | .token _ => 5

/-- The place of the vault among the accounts of a delivered fill. -/
def releasePlace : Asset → Nat
  | .native => 9
  | .token _ => 10

end Asset

namespace Program

open AccountEntry

variable {program : Program} {signer creator solver config escrow vault : Address}
  {order : SwapOrder} {asset : Asset} {snapshot : Snapshot} {created : Resolved}

theorem release_stored :
    program.release (order.stored snapshot program) solver = program.release order solver := rfl

theorem exists_accounts_of_create
    (h : program.resolve (.create signer order) snapshot = .ok created) :
    parseAddress "creator" order.creator = .ok signer ∧
      ∃ config, program.account .config = .ok config ∧
        ∃ asset, Asset.parse "token" order.token = .ok asset ∧
        ∃ escrow, program.escrow signer order = .ok escrow ∧
        ∃ vault, program.vault asset = .ok vault ∧
          created.accounts[3]? = some ⟨escrow, true, false⟩ ∧
          created.accounts[asset.depositPlace]? = some ⟨vault, true, false⟩ := by
  obtain ⟨creator, hcreator, rfl, asset, hasset, config, hconfig, escrow, hescrow, deposit,
    hdeposit, rfl⟩ := resolveCreate_eq_ok_iff.mp h
  obtain ⟨vault, hvault, hentries⟩ := depositAccounts_eq_ok_iff.mp hdeposit
  refine ⟨hcreator, config, hconfig, asset, hasset, escrow, hescrow, vault, hvault, rfl, ?_⟩
  cases asset with
  | native =>
      rw [hentries]
      rfl
  | token mint =>
      obtain ⟨wallet, -, rfl⟩ := hentries
      rfl

/-- Once the escrow and the vault have addresses, a release needs no more than the solver's wallet
for a token.  Four accounts stand before it in a delivery. -/
theorem exists_release (hcreator : parseAddress "creator" order.creator = .ok creator)
    (hconfig : program.account .config = .ok config)
    (hasset : Asset.parse "token" order.token = .ok asset)
    (hescrow : program.escrow creator order = .ok escrow)
    (hvault : program.vault asset = .ok vault)
    (hwallet : ∀ mint, asset = .token mint →
      Viable Address.associatedTokenProgram (walletSeeds solver mint)) :
    ∃ released, program.release order solver = .ok released ∧
      released[1]? = some ⟨escrow, true, false⟩ ∧
      released[asset.releasePlace - 4]? = some ⟨vault, true, false⟩ := by
  cases asset with
  | native =>
      have hmoved : program.releaseAccounts solver .native = .ok _ :=
        releaseAccounts_eq_ok_iff.mpr ⟨vault, hvault, rfl⟩
      exact ⟨_, release_eq_ok_iff.mpr ⟨creator, hcreator, .native, hasset, config, hconfig, escrow,
        hescrow, _, hmoved, rfl⟩, rfl, rfl⟩
  | token mint =>
      obtain ⟨wallet, htoken⟩ := exists_tokenAccount (hwallet mint rfl)
      have hmoved : program.releaseAccounts solver (.token mint) = .ok _ :=
        releaseAccounts_eq_ok_iff.mpr ⟨vault, hvault, wallet, htoken, rfl⟩
      exact ⟨_, release_eq_ok_iff.mpr ⟨creator, hcreator, .token mint, hasset, config, hconfig,
        escrow, hescrow, _, hmoved, rfl⟩, rfl, rfl⟩

theorem exists_resolve_cancel (hcreator : parseAddress "creator" order.creator = .ok signer)
    (hconfig : program.account .config = .ok config)
    (hescrow : program.escrow signer order = .ok escrow) (hid : order.hasId = true)
    (hviable : order.srcNid = order.dstNid →
      Viable program.address (Purpose.orderFinished order.hash).seeds) (snapshot : Snapshot) :
    ∃ cancelled, program.resolve (.cancel signer order) snapshot = .ok cancelled ∧
      cancelled.accounts[3]? = some ⟨escrow, true, false⟩ := by
  -- Between two networks the place of the mark is left unused, so only on one is it derived.
  have hmark : ∃ mark, program.cancelMark order = .ok mark := by
    by_cases hsame : order.isSameNetwork
    · obtain ⟨finished, hfinished⟩ := exists_account (Purpose.wellSized_orderFinished order.hash)
        (hviable (SwapOrder.isSameNetwork_iff.mp hsame))
      refine ⟨writable finished, ?_⟩
      rw [cancelMark_eq_ok_iff, if_pos hsame]
      exact ⟨hid, finished, hfinished, rfl⟩
    · refine ⟨program.unused, ?_⟩
      rw [cancelMark_eq_ok_iff, if_neg hsame]
  obtain ⟨mark, hmark⟩ := hmark
  refine ⟨_, resolveCancel_eq_ok_iff.mpr ⟨signer, hcreator, rfl, config, hconfig, escrow, hescrow,
    mark, hmark, rfl⟩, rfl⟩

/-- What is created can be cancelled and, once filled, delivered; both reach the escrow that was
created, and the delivery pays from the vault that the deposit went to. -/
theorem cancelled_delivered_eq_created (program : Program) (signer : Address) (order : SwapOrder)
    (snapshot : Snapshot) (created : Resolved)
    (hcreate : program.resolve (.create signer order) snapshot = .ok created) :
    let stored := order.stored snapshot program
    ∃ asset escrow vault, Asset.parse "token" order.token = .ok asset ∧
      program.account (.order signer order.dstNid order.amount order.toAmount) = .ok escrow ∧
      program.vault asset = .ok vault ∧
      created.accounts[3]? = some ⟨escrow, true, false⟩ ∧
      created.accounts[asset.depositPlace]? = some ⟨vault, true, false⟩ ∧
      (∀ later : Snapshot,
        (stored.srcNid = stored.dstNid →
          Viable program.address (Purpose.orderFinished stored.hash).seeds) →
        ∃ cancelled, program.resolve (.cancel signer stored) later = .ok cancelled ∧
          cancelled.accounts[3]? = created.accounts[3]?) ∧
      ∀ (later : Snapshot) (solver : Address) (connSn : Word128),
        (stored.fillMessage solver.toText).length < Nat.pow 2 64 →
        Viable program.address (Purpose.receipt order.dstNid connSn).seeds →
        (∀ mint, asset = .token mint →
          Viable Address.associatedTokenProgram (walletSeeds solver mint)) →
        ∃ delivered, program.resolve (.receiveMessage later.admin order.dstNid connSn
            (stored.fillMessage solver.toText)) later = .ok delivered ∧
          delivered.accounts[5]? = created.accounts[3]? ∧
          delivered.accounts[asset.releasePlace]? = created.accounts[asset.depositPlace]? := by
  intro stored
  obtain ⟨hcreator, config, hconfig, asset, hasset, escrow, hescrow, vault, hvault, hplace,
    hdeposit⟩ := exists_accounts_of_create hcreate
  refine ⟨asset, escrow, vault, hasset, hescrow, hvault, hplace, hdeposit, ?_, ?_⟩
  · intro later hviable
    have hstored : parseAddress "creator" stored.creator = .ok signer := hcreator
    obtain ⟨cancelled, hresolve, haccount⟩ := exists_resolve_cancel hstored hconfig hescrow
      (order.hasId_stored snapshot program) hviable later
    exact ⟨cancelled, hresolve, by rw [haccount, hplace]⟩
  · intro later solver connSn hlt hreceipt hwallet
    obtain ⟨released, hreleased, hescrow', hvault'⟩ :=
      exists_release hcreator hconfig hasset hescrow hvault hwallet
    have hstored : program.release stored solver = .ok released :=
      release_stored.trans hreleased
    obtain ⟨delivered, opening, hresolve, hopening, haccounts⟩ :=
      exists_resolve_fillMessage hstored solver.ofText?_toText hlt hreceipt later
    have hbehind : 4 ≤ asset.releasePlace := by
      cases asset <;> simp [Asset.releasePlace]
    refine ⟨delivered, hresolve, ?_, ?_⟩
    · rw [haccounts, List.getElem?_append_right (by omega), hopening, hplace]
      exact hescrow'
    · rw [haccounts, List.getElem?_append_right (by omega), hopening, hvault', hdeposit]

/-- The escrow and the vault of a deposit of five units of a token, at their places in the creation,
in the cancellation and in the delivery. -/
theorem cancelled_delivered_eq_created_token :
    let program : Program := ⟨Address.associatedTokenProgram⟩
    let signer := Address.tokenProgram
    let mint : Address := ⟨List.replicate 31 0 ++ [1], rfl⟩
    let order : SwapOrder :=
      { id := 0, emitter := "", srcNid := "", dstNid := "b"
        creator := "TokenkegQfeZyiNwAJbNbGKPFXCWuBvf9Ss623VQ5DA", destinationAddress := ""
        token := "11111111111111111111111111111112", amount := 5, toToken := "", toAmount := 7
        data := [1] }
    let snapshot : Snapshot := ⟨Address.systemProgram, Address.systemProgram, "b", 0, 6, 0⟩
    let stored := order.stored snapshot program
    let solver := Address.systemProgram
    ∃ created cancelled delivered escrow vault,
      program.resolve (.create signer order) snapshot = .ok created ∧
        program.resolve (.cancel signer stored) snapshot = .ok cancelled ∧
        program.resolve (.receiveMessage snapshot.admin "b" 1 (stored.fillMessage solver.toText))
          snapshot = .ok delivered ∧
        program.account (.order signer "b" 5 7) = .ok escrow ∧
        program.account (.vaultToken mint) = .ok vault ∧
        created.accounts[3]? = some ⟨escrow, true, false⟩ ∧
        created.accounts[5]? = some ⟨vault, true, false⟩ ∧
        cancelled.accounts[3]? = some ⟨escrow, true, false⟩ ∧
        delivered.accounts[5]? = some ⟨escrow, true, false⟩ ∧
        delivered.accounts[10]? = some ⟨vault, true, false⟩ := by
  intro program signer mint order snapshot stored solver
  have hok : (program.resolve (.create signer order) snapshot).isOk = true := by decide +kernel
  obtain ⟨created, hcreate⟩ := exists_eq_ok_of_isOk hok
  obtain ⟨asset, escrow, vault, hasset, hescrow, hvault, hplace, hdeposit, hcancel, hdeliver⟩ :=
    cancelled_delivered_eq_created program signer order snapshot created hcreate
  have hmint : Asset.parse "token" order.token = .ok (.token mint) := by
    apply Asset.parse_eq_ok_iff.mpr
    exact ⟨by decide, by decide +kernel⟩
  rw [hmint, Except.ok.injEq] at hasset
  subst hasset
  have hwallet : Viable Address.associatedTokenProgram (walletSeeds solver mint) := by
    decide +kernel
  have hmark : Viable program.address (Purpose.orderFinished stored.hash).seeds := by
    decide +kernel
  have hreceipt : Viable program.address (Purpose.receipt "b" 1).seeds := by decide +kernel
  obtain ⟨cancelled, hcancelled, hcancelled3⟩ := hcancel snapshot fun _ => hmark
  obtain ⟨delivered, hdelivered, hdelivered5, hdelivered10⟩ :=
    hdeliver snapshot solver 1 (by decide +kernel) hreceipt fun mint' hmint' => by
      cases hmint'
      exact hwallet
  exact ⟨created, cancelled, delivered, escrow, vault, hcreate, hcancelled, hdelivered, hescrow,
    hvault, hplace, hdeposit, hcancelled3.trans hplace, hdelivered5.trans hplace,
    hdelivered10.trans hdeposit⟩

end Program

end CrossSwap
