import CrossSwap.Proofs.Order.Fee
import CrossSwap.Proofs.Resolve.Naming

/-!
# The rate of a snapshot

A fill is the only request that computes a fee, and it does so once, at the rate of the snapshot.  So
no fill is refused for its fee under a snapshot with a valid rate, whatever else it is refused for.
-/

namespace CrossSwap

/-- No error of the outcome is about the fee. -/
def NoFeeError {α : Type} (x : Except ResolveError α) : Prop :=
  ∀ e, x ≠ .error (.fee e)

namespace NoFeeError

variable {α β : Type} {x : Except ResolveError α} {f : α → Except ResolveError β}

theorem ok (a : α) : NoFeeError (.ok a) := by
  intro e h
  cases h

theorem bind (hx : NoFeeError x) (hf : ∀ a, x = .ok a → NoFeeError (f a)) :
    NoFeeError (x >>= f) := by
  intro e h
  rcases bind_eq_error_iff.mp h with herror | ⟨a, ha, hfa⟩
  · exact hx e herror
  · exact hf a ha e hfa

theorem require {p : Prop} [Decidable p] {e : ResolveError} (he : ∀ e', e ≠ .fee e') :
    NoFeeError (require p e) := by
  intro e' h
  rw [CrossSwap.require] at h
  split at h
  · cases h
  · exact he e' (Except.error.inj h)

end NoFeeError

section Steps

variable {program : Program} {purpose : Purpose} {order : SwapOrder} {field value : String}
  {asset : Asset} {owner mint solver feeHandler destination payer : Address}

theorem noFeeError_parseAddress : NoFeeError (parseAddress field value) := by
  intro e h
  cases (parseAddress_eq_error_iff.mp h).2

theorem noFeeError_parseAsset : NoFeeError (Asset.parse field value) := by
  intro e h
  cases (Asset.parse_eq_error_iff.mp h).2

namespace Program

theorem noFeeError_account : NoFeeError (program.account purpose) := by
  intro e h
  rw [account] at h
  split at h
  · cases h
  · cases h

theorem noFeeError_tokenAccount : NoFeeError (tokenAccount owner mint) := by
  intro e h
  rw [tokenAccount] at h
  cases hwallet : associatedToken owner mint with
  | error e' =>
      rw [hwallet] at h
      cases h
  | ok wallet =>
      rw [hwallet] at h
      cases h

theorem noFeeError_paymentAccounts :
    NoFeeError (program.paymentAccounts feeHandler destination payer asset) := by
  cases asset with
  | native => exact .ok _
  | token mint =>
      apply noFeeError_tokenAccount.bind
      intro feeWallet _
      apply noFeeError_tokenAccount.bind
      intro destinationWallet _
      apply noFeeError_tokenAccount.bind
      intro payerWallet _
      exact .ok _

theorem noFeeError_releaseAccounts : NoFeeError (program.releaseAccounts solver asset) := by
  cases asset with
  | native =>
      apply noFeeError_account.bind
      intro vault _
      exact .ok _
  | token mint =>
      apply noFeeError_account.bind
      intro vault _
      apply noFeeError_tokenAccount.bind
      intro wallet _
      exact .ok _

theorem noFeeError_release : NoFeeError (program.release order solver) := by
  apply noFeeError_parseAddress.bind
  intro creator _
  apply noFeeError_parseAsset.bind
  intro asset _
  apply noFeeError_account.bind
  intro config _
  apply noFeeError_account.bind
  intro escrow _
  apply noFeeError_releaseAccounts.bind
  intro moved _
  exact .ok _

theorem noFeeError_ownRelease {solverAddress : String} :
    NoFeeError (program.ownRelease order solverAddress) := by
  rw [ownRelease]
  split
  · exact noFeeError_parseAddress.bind fun solver _ => noFeeError_release
  · exact .ok _

/-- The only step of a fill that can fail for the fee is the settlement. -/
theorem noFeeError_fill {signer : Address} {solverAddress : String} {snapshot : Snapshot}
    (hrate : snapshot.protocolFee.toNat ≤ feeDenominator) :
    NoFeeError (program.resolve (.fill signer order solverAddress) snapshot) := by
  obtain ⟨split, hsplit, -⟩ := exists_feeSplit order.toAmount hrate
  apply NoFeeError.bind (.require fun e h => by cases h)
  intro _ _
  apply NoFeeError.bind (.require fun e h => by cases h)
  intro _ _
  apply NoFeeError.bind (.require fun e h => by cases h)
  intro _ _
  apply noFeeError_parseAddress.bind
  intro destination _
  apply noFeeError_parseAsset.bind
  intro asset _
  rw [hsplit]
  apply NoFeeError.bind (.ok split)
  intro _ _
  apply noFeeError_account.bind
  intro config _
  apply noFeeError_account.bind
  intro finished _
  apply noFeeError_paymentAccounts.bind
  intro payment _
  apply noFeeError_ownRelease.bind
  intro released _
  exact .ok _

end Program

end Steps

end CrossSwap
