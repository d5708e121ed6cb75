import CrossSwap.Proofs.Outcome
import CrossSwap.Resolve.Accounts

/-!
# Which accounts have an address

Seeds give an address exactly when they are few and short enough and some bump leads off the curve.
Of the accounts of the program only those of orders and receipts have a seed that may be too long:
the name of a network.
-/

namespace CrossSwap

namespace Derived

/-- The seeds leave room for the bump and none of them is too long. -/
def WellSized (seeds : List Seed) : Prop :=
  seeds.length < maxSeeds ∧ ∀ s ∈ seeds, s.bytes.length ≤ maxSeedLength

/-- The search over the bumps finds one. -/
def Viable (program : Address) (seeds : List Seed) : Prop :=
  (search program (seeds.map Seed.bytes) 255).isSome

instance (program : Address) (seeds : List Seed) : Decidable (Viable program seeds) :=
  inferInstanceAs (Decidable (_ = true))

variable {program : Address} {seeds : List Seed} {d : Derived}

theorem find?_long_eq_none_iff :
    (seeds.find? fun s => maxSeedLength < s.bytes.length) = none ↔
      ∀ s ∈ seeds, s.bytes.length ≤ maxSeedLength := by
  simp

/-- The size of the seeds aside, only the search decides. -/
theorem derive_of_wellSized (hsized : WellSized seeds) :
    derive program seeds =
      (search program (seeds.map Seed.bytes) 255).elim (.error .noViableBump) .ok := by
  rw [derive, if_neg (Nat.not_le.mpr hsized.1), find?_long_eq_none_iff.mpr hsized.2]
  -- The search stands for any outcome here; left in place it would be run.
  generalize search program (seeds.map Seed.bytes) 255 = found
  cases found with
  | none => rfl
  | some d => rfl

theorem derive_eq_ok_iff :
    derive program seeds = .ok d ↔
      WellSized seeds ∧ search program (seeds.map Seed.bytes) 255 = some d := by
  by_cases hsized : WellSized seeds
  · rw [derive_of_wellSized hsized]
    cases search program (seeds.map Seed.bytes) 255 with
    | none => simp
    | some found => simp [hsized]
  · refine ⟨fun h => ?_, fun h => absurd h.1 hsized⟩
    rw [derive] at h
    split at h
    · cases h
    · rename_i hfew
      cases hlong : seeds.find? fun s => maxSeedLength < s.bytes.length with
      | none =>
          exact absurd ⟨Nat.not_le.mp hfew, find?_long_eq_none_iff.mp hlong⟩ hsized
      | some s =>
          rw [hlong] at h
          cases h

theorem wellSized_of_derive (h : derive program seeds = .ok d) : WellSized seeds :=
  (derive_eq_ok_iff.mp h).1

theorem exists_derive (hsized : WellSized seeds) (hviable : Viable program seeds) :
    ∃ d, derive program seeds = .ok d := by
  obtain ⟨d, hsearch⟩ := Option.isSome_iff_exists.mp hviable
  exact ⟨d, derive_eq_ok_iff.mpr ⟨hsized, hsearch⟩⟩

/-- The first seed that is too long names the error. -/
theorem derive_of_long (front : List Seed) {back : List Seed} {s : Seed}
    (hfew : (front ++ s :: back).length < maxSeeds)
    (hfront : ∀ t ∈ front, t.bytes.length ≤ maxSeedLength)
    (hlong : maxSeedLength < s.bytes.length) :
    derive program (front ++ s :: back) = .error (.seedTooLong s.name s.bytes.length) := by
  have hfind : (front ++ s :: back).find? (fun t => maxSeedLength < t.bytes.length) = some s := by
    apply List.find?_eq_some_iff_append.mpr
    exact ⟨decide_eq_true hlong, front, back, rfl, by simpa using hfront⟩
  rw [derive, if_neg (Nat.not_le.mpr hfew), hfind]

end Derived

open Derived

namespace Program

variable {program : Program} {purpose : Purpose} {a : Address}

theorem account_eq_ok_iff :
    program.account purpose = .ok a ↔ ∃ d, program.derive purpose = .ok d ∧ d.address = a := by
  rw [account]
  cases program.derive purpose with
  | error e => simp
  | ok d => simp

theorem wellSized_of_account (h : program.account purpose = .ok a) : WellSized purpose.seeds := by
  obtain ⟨d, hderive, -⟩ := account_eq_ok_iff.mp h
  exact wellSized_of_derive hderive

theorem exists_account (hsized : WellSized purpose.seeds)
    (hviable : Viable program.address purpose.seeds) : ∃ a, program.account purpose = .ok a := by
  obtain ⟨d, hderive⟩ := exists_derive hsized hviable
  exact ⟨d.address, account_eq_ok_iff.mpr ⟨d, hderive, rfl⟩⟩

end Program

/-! ## The seeds of each account -/

theorem Purpose.wellSized_config : WellSized Purpose.config.seeds := by
  have hlabel : (Text.toBytes "config").length = 6 := by decide
  simp [WellSized, Purpose.seeds, hlabel, maxSeeds, maxSeedLength]

theorem Purpose.wellSized_vaultNative : WellSized Purpose.vaultNative.seeds := by
  have hlabel : (Text.toBytes "vault_native").length = 12 := by decide
  simp [WellSized, Purpose.seeds, hlabel, maxSeeds, maxSeedLength]

theorem Purpose.wellSized_vaultToken (mint : Address) : WellSized (Purpose.vaultToken mint).seeds := by
  have hlabel : (Text.toBytes "vault_token").length = 11 := by decide
  simp [WellSized, Purpose.seeds, hlabel, mint.length_toBytes, maxSeeds, maxSeedLength]

theorem Purpose.wellSized_orderFinished (hash : Digest) :
    WellSized (Purpose.orderFinished hash).seeds := by
  simp [WellSized, Purpose.seeds, hash.length_toBytes, maxSeeds, maxSeedLength]

theorem Purpose.wellSized_order_iff {creator : Address} {dstNid : String}
    {amount toAmount : Word128} :
    WellSized (Purpose.order creator dstNid amount toAmount).seeds ↔
      (Text.toBytes dstNid).length ≤ maxSeedLength := by
  simp [WellSized, Purpose.seeds, seedNumber, creator.length_toBytes, maxSeeds, maxSeedLength]

theorem Purpose.wellSized_receipt_iff {srcNid : String} {connSn : Word128} :
    WellSized (Purpose.receipt srcNid connSn).seeds ↔
      (Text.toBytes srcNid).length ≤ maxSeedLength := by
  have hreceipt : (Text.toBytes "receipt").length = 7 := by decide
  simp [WellSized, Purpose.seeds, seedNumber, hreceipt, maxSeeds, maxSeedLength]

/-- The seeds of the account that holds an owner's balance of a token. -/
def walletSeeds (owner mint : Address) : List Seed :=
  [⟨"owner", owner.toBytes⟩, ⟨"token_program", Address.tokenProgram.toBytes⟩, ⟨"mint", mint.toBytes⟩]

theorem wellSized_walletSeeds (owner mint : Address) : WellSized (walletSeeds owner mint) := by
  simp [WellSized, walletSeeds, Address.length_toBytes, maxSeeds, maxSeedLength]

theorem exists_tokenAccount {owner mint : Address}
    (hviable : Viable Address.associatedTokenProgram (walletSeeds owner mint)) :
    ∃ wallet, Program.tokenAccount owner mint = .ok wallet := by
  obtain ⟨d, hderive⟩ := exists_derive (wellSized_walletSeeds owner mint) hviable
  refine ⟨d.address, ?_⟩
  rw [Program.tokenAccount, mapError_eq_ok_iff]
  exact bind_eq_ok_iff.mpr ⟨d, hderive, rfl⟩

end CrossSwap
