import CrossSwap.Proofs.Outcome
import CrossSwap.Resolve.Accounts

/-!
# What the blocks of accounts hold

Deposits, payments and releases each contribute a block of a fixed length.  A deposit and the
release of it name the same vault, and everything that a release names is writable.
-/

namespace CrossSwap

theorem parseAddress_eq_ok_iff {field value : String} {a : Address} :
    parseAddress field value = .ok a ↔ Address.ofText? value = some a := by
  rw [parseAddress]
  cases Address.ofText? value with
  | none => simp
  | some b => simp

theorem Asset.parse_eq_ok_iff {field value : String} {asset : Asset} :
    Asset.parse field value = .ok asset ↔
      match asset with
      | .native => value = nativeAsset
      | .token mint => value ≠ nativeAsset ∧ Address.ofText? value = some mint := by
  rw [Asset.parse]
  by_cases hnative : value = nativeAsset
  · rw [if_pos hnative]
    cases asset with
    | native => simp [hnative]
    | token mint => simp [hnative]
  · rw [if_neg hnative]
    cases Address.ofText? value with
    | none => cases asset <;> simp [hnative]
    | some a => cases asset <;> simp [hnative]

namespace Program

open AccountEntry

variable {program : Program} {owner solver feeHandler destination payer : Address}
  {order : SwapOrder} {asset : Asset} {entries : List AccountEntry}

/-- The account that keeps the deposits in an asset. -/
def vault (program : Program) : Asset → Except ResolveError Address
  | .native => program.account .vaultNative
  | .token mint => program.account (.vaultToken mint)

theorem depositAccounts_eq_ok_iff :
    program.depositAccounts owner asset = .ok entries ↔
      ∃ vault, program.vault asset = .ok vault ∧
        match asset with
        | .native =>
            entries = [writable vault, program.unused, program.unused, program.unused]
        | .token mint =>
            ∃ wallet, tokenAccount owner mint = .ok wallet ∧
              entries = [program.unused, writable vault, writable wallet, readonly mint] := by
  cases asset with
  | native => simp only [depositAccounts, vault, bind_eq_ok_iff, pure_eq_ok_iff]
  | token mint => simp only [depositAccounts, vault, bind_eq_ok_iff, pure_eq_ok_iff]

theorem paymentAccounts_eq_ok_iff :
    program.paymentAccounts feeHandler destination payer asset = .ok entries ↔
      match asset with
      | .native => entries = [program.unused, program.unused, program.unused, program.unused]
      | .token mint =>
          ∃ feeWallet, tokenAccount feeHandler mint = .ok feeWallet ∧
            ∃ destinationWallet, tokenAccount destination mint = .ok destinationWallet ∧
            ∃ payerWallet, tokenAccount payer mint = .ok payerWallet ∧
              entries = [writable feeWallet, writable destinationWallet, writable payerWallet,
                readonly mint] := by
  cases asset with
  | native => rw [paymentAccounts, Except.ok.injEq, eq_comm]
  | token mint => simp only [paymentAccounts, bind_eq_ok_iff, pure_eq_ok_iff]

theorem length_paymentAccounts
    (h : program.paymentAccounts feeHandler destination payer asset = .ok entries) :
    entries.length = 4 := by
  rw [paymentAccounts_eq_ok_iff] at h
  cases asset with
  | native =>
      rw [h]
      rfl
  | token mint =>
      obtain ⟨feeWallet, -, destinationWallet, -, payerWallet, -, rfl⟩ := h
      rfl

theorem releaseAccounts_eq_ok_iff :
    program.releaseAccounts solver asset = .ok entries ↔
      ∃ vault, program.vault asset = .ok vault ∧
        match asset with
        | .native =>
            entries = [program.unusedWritable, writable vault, program.unusedWritable,
              program.unusedWritable]
        | .token mint =>
            ∃ wallet, tokenAccount solver mint = .ok wallet ∧
              entries = [writable wallet, program.unusedWritable, writable vault,
                writable mint] := by
  cases asset with
  | native => simp only [releaseAccounts, vault, bind_eq_ok_iff, pure_eq_ok_iff]
  | token mint => simp only [releaseAccounts, vault, bind_eq_ok_iff, pure_eq_ok_iff]

theorem release_eq_ok_iff :
    program.release order solver = .ok entries ↔
      ∃ creator, parseAddress "creator" order.creator = .ok creator ∧
        ∃ asset, Asset.parse "token" order.token = .ok asset ∧
        ∃ config, program.account .config = .ok config ∧
        ∃ escrow, program.escrow creator order = .ok escrow ∧
        ∃ moved, program.releaseAccounts solver asset = .ok moved ∧
          entries =
            [writable config, writable escrow, writable creator, writable solver] ++ moved ++
              [writable Address.tokenProgram, writable Address.associatedTokenProgram] := by
  simp only [release, bind_eq_ok_iff, pure_eq_ok_iff]

theorem exists_addresses_of_releaseAccounts
    (h : program.releaseAccounts solver asset = .ok entries) :
    ∃ addresses : List Address, addresses.length = 4 ∧ entries = addresses.map writable := by
  obtain ⟨vault, -, hentries⟩ := releaseAccounts_eq_ok_iff.mp h
  cases asset with
  | native =>
      refine ⟨[program.address, vault, program.address, program.address], rfl, ?_⟩
      exact hentries
  | token mint =>
      obtain ⟨wallet, -, hentries⟩ := hentries
      exact ⟨[wallet, program.address, vault, mint], rfl, hentries⟩

/-- A release names ten accounts, and all of them are written to without a signature. -/
theorem exists_addresses_of_release (h : program.release order solver = .ok entries) :
    ∃ addresses : List Address, addresses.length = 10 ∧ entries = addresses.map writable := by
  obtain ⟨creator, -, asset, -, config, -, escrow, -, moved, hmoved, rfl⟩ :=
    release_eq_ok_iff.mp h
  obtain ⟨addresses, hlength, rfl⟩ := exists_addresses_of_releaseAccounts hmoved
  refine ⟨[config, escrow, creator, solver] ++ addresses ++
    [Address.tokenProgram, Address.associatedTokenProgram], ?_, ?_⟩
  · simp [hlength]
  · simp

end Program

end CrossSwap
