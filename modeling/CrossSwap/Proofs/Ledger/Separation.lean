import CrossSwap.Proofs.Bytes.Minimal
import CrossSwap.Proofs.Ledger.Derivation

/-!
# Which accounts share their seeds

A hash takes the seeds of an account one behind the other, without marks between them, and the names
of networks among them are free texts.  Accounts still have the same seed bytes only when they are
the same, with one exception: the bytes of a receipt for a network whose name has nine bytes may be
those of a hash.
-/

namespace CrossSwap

open Derived

namespace Derived

variable {program : Address} {seeds seeds' : List Bytes}

theorem search_congr (h : seeds.flatten = seeds'.flatten) (n : Nat) :
    search program seeds n = search program seeds' n := by
  induction n with
  | zero => rfl
  | succ n ih =>
      have hcandidate (bump : UInt8) :
          candidate program seeds bump = candidate program seeds' bump := by
        rw [candidate, candidate, h]
      rw [search, search, hcandidate, ih]

end Derived

theorem toNatBE_seedNumber (n : Word128) : Bytes.toNatBE (seedNumber n) = n.toNat := by
  rw [seedNumber, Bytes.toNatBE_ofNatBE]
  exact Nat.mod_eq_of_lt n.isLt

theorem seedNumber_injective {m n : Word128} (h : seedNumber m = seedNumber n) : m = n := by
  apply BitVec.eq_of_toNat_eq
  rw [← toNatBE_seedNumber m, h, toNatBE_seedNumber]

namespace Purpose

variable {p q : Purpose} {mint mint' creator creator' : Address} {hash hash' : Digest}
  {dstNid dstNid' srcNid srcNid' : String}
  {amount amount' toAmount toAmount' connSn connSn' : Word128}

/-- What a hash takes of the seeds of an account. -/
def seedBytes (purpose : Purpose) : Bytes :=
  (purpose.seeds.map Seed.bytes).flatten

/-- The number of bytes that the seeds of an account have together. -/
def seedLength : Purpose → Nat
  | config => 6
  | vaultNative => 12
  | vaultToken _ => 43
  | order _ dstNid _ _ => 64 + (Text.toBytes dstNid).length
  | orderFinished _ => 32
  | receipt srcNid _ => 23 + (Text.toBytes srcNid).length

theorem seedBytes_vaultToken (mint : Address) :
    (vaultToken mint).seedBytes = Text.toBytes "vault_token" ++ mint.toBytes := by
  simp [seedBytes, seeds]

theorem seedBytes_order (creator : Address) (dstNid : String) (amount toAmount : Word128) :
    (order creator dstNid amount toAmount).seedBytes =
      creator.toBytes ++ (Text.toBytes dstNid ++ (seedNumber amount ++ seedNumber toAmount)) := by
  simp [seedBytes, seeds]

theorem seedBytes_orderFinished (hash : Digest) :
    (orderFinished hash).seedBytes = hash.toBytes := by
  simp [seedBytes, seeds]

theorem seedBytes_receipt (srcNid : String) (connSn : Word128) :
    (receipt srcNid connSn).seedBytes =
      Text.toBytes "receipt" ++ (Text.toBytes srcNid ++ seedNumber connSn) := by
  simp [seedBytes, seeds]

@[simp] theorem length_seedNumber (n : Word128) : (seedNumber n).length = 16 :=
  Bytes.length_ofNatBE 16 n.toNat

theorem length_seedBytes (p : Purpose) : p.seedBytes.length = p.seedLength := by
  cases p with
  | config => decide
  | vaultNative => decide
  | vaultToken mint =>
      have hlabel : (Text.toBytes "vault_token").length = 11 := by decide
      rw [seedBytes_vaultToken, List.length_append, hlabel, mint.length_toBytes, seedLength]
  | order creator dstNid amount toAmount =>
      simp only [seedBytes_order, List.length_append, creator.length_toBytes, length_seedNumber,
        seedLength]
      omega
  | orderFinished hash => rw [seedBytes_orderFinished, hash.length_toBytes, seedLength]
  | receipt srcNid connSn =>
      have hlabel : (Text.toBytes "receipt").length = 7 := by decide
      simp only [seedBytes_receipt, List.length_append, hlabel, length_seedNumber, seedLength]
      omega

theorem seedLength_eq (h : p.seedBytes = q.seedBytes) : p.seedLength = q.seedLength := by
  rw [← length_seedBytes, h, length_seedBytes]

/-! ## Accounts of one kind -/

theorem vaultToken_inj (h : (vaultToken mint).seedBytes = (vaultToken mint').seedBytes) :
    mint = mint' := by
  rw [seedBytes_vaultToken, seedBytes_vaultToken] at h
  exact Address.ext (List.append_cancel_left h)

/-- The fixed lengths around the name of the network leave one way to split the bytes. -/
theorem order_inj (h : (order creator dstNid amount toAmount).seedBytes =
      (order creator' dstNid' amount' toAmount').seedBytes) :
    creator = creator' ∧ dstNid = dstNid' ∧ amount = amount' ∧ toAmount = toAmount' := by
  have hlength : 64 + (Text.toBytes dstNid).length = 64 + (Text.toBytes dstNid').length :=
    seedLength_eq h
  rw [seedBytes_order, seedBytes_order] at h
  obtain ⟨hcreator, hrest⟩ :=
    List.append_inj h (creator.length_toBytes.trans creator'.length_toBytes.symm)
  obtain ⟨hname, hnumbers⟩ := List.append_inj hrest (Nat.add_left_cancel hlength)
  obtain ⟨hamount, htoAmount⟩ := List.append_inj hnumbers (by simp)
  exact ⟨Address.ext hcreator, Text.toBytes_injective hname, seedNumber_injective hamount,
    seedNumber_injective htoAmount⟩

theorem receipt_inj (h : (receipt srcNid connSn).seedBytes = (receipt srcNid' connSn').seedBytes) :
    srcNid = srcNid' ∧ connSn = connSn' := by
  have hlength : 23 + (Text.toBytes srcNid).length = 23 + (Text.toBytes srcNid').length :=
    seedLength_eq h
  rw [seedBytes_receipt, seedBytes_receipt] at h
  obtain ⟨hname, hnumber⟩ :=
    List.append_inj (List.append_cancel_left h) (Nat.add_left_cancel hlength)
  exact ⟨Text.toBytes_injective hname, seedNumber_injective hnumber⟩

/-! ## Accounts of two kinds -/

/-- A vault and a receipt may have seeds of one length, but they start with different letters. -/
theorem vaultToken_ne_receipt : (vaultToken mint).seedBytes ≠ (receipt srcNid connSn).seedBytes := by
  intro h
  have hvault : (vaultToken mint).seedBytes.head? = some 0x76 := by
    rw [seedBytes_vaultToken]
    rfl
  have hreceipt : (receipt srcNid connSn).seedBytes.head? = some 0x72 := by
    rw [seedBytes_receipt]
    rfl
  rw [h, hreceipt] at hvault
  exact absurd hvault (by decide)

/-- One is the mark for a hash, the other the receipt whose seeds are the bytes of the hash. -/
def MarkMeetsReceipt (p q : Purpose) : Prop :=
  ∃ hash srcNid connSn, p = orderFinished hash ∧ q = receipt srcNid connSn ∧
    (Text.toBytes srcNid).length = 9 ∧ hash.toBytes = (receipt srcNid connSn).seedBytes

theorem markMeetsReceipt (h : (orderFinished hash).seedBytes = (receipt srcNid connSn).seedBytes) :
    MarkMeetsReceipt (orderFinished hash) (receipt srcNid connSn) := by
  have hlength : 32 = 23 + (Text.toBytes srcNid).length := seedLength_eq h
  rw [seedBytes_orderFinished] at h
  exact ⟨hash, srcNid, connSn, rfl, rfl, by omega, h⟩

theorem MarkMeetsReceipt.seedBytes_eq (h : MarkMeetsReceipt p q) : p.seedBytes = q.seedBytes := by
  obtain ⟨hash, srcNid, connSn, rfl, rfl, -, hbytes⟩ := h
  rw [seedBytes_orderFinished, hbytes]

/-- The seeds of an order are longer than those of any receipt. -/
theorem order_ne_receipt (hsized : WellSized (receipt srcNid connSn).seeds) :
    (order creator dstNid amount toAmount).seedBytes ≠ (receipt srcNid connSn).seedBytes := by
  intro h
  have hlength : 64 + (Text.toBytes dstNid).length = 23 + (Text.toBytes srcNid).length :=
    seedLength_eq h
  have hname := wellSized_receipt_iff.mp hsized
  rw [maxSeedLength] at hname
  omega

theorem eq_or_meets_of_seedBytes_eq (hp : WellSized p.seeds) (hq : WellSized q.seeds)
    (h : p.seedBytes = q.seedBytes) : p = q ∨ MarkMeetsReceipt p q ∨ MarkMeetsReceipt q p := by
  have hlength := seedLength_eq h
  -- Only the seeds of orders and receipts vary in length; all other pairs differ in it.
  cases p with
  | config =>
      cases q with
      | config => exact .inl rfl
      | _ => simp only [seedLength] at hlength; omega
  | vaultNative =>
      cases q with
      | vaultNative => exact .inl rfl
      | _ => simp only [seedLength] at hlength; omega
  | vaultToken mint =>
      cases q with
      | vaultToken mint' => exact .inl (congrArg vaultToken (vaultToken_inj h))
      | receipt srcNid connSn => exact absurd h vaultToken_ne_receipt
      | _ => simp only [seedLength] at hlength; omega
  | order creator dstNid amount toAmount =>
      cases q with
      | order creator' dstNid' amount' toAmount' =>
          obtain ⟨rfl, rfl, rfl, rfl⟩ := order_inj h
          exact .inl rfl
      | receipt srcNid connSn => exact absurd h (order_ne_receipt hq)
      | _ => simp only [seedLength] at hlength; omega
  | orderFinished hash =>
      cases q with
      | orderFinished hash' =>
          rw [seedBytes_orderFinished, seedBytes_orderFinished] at h
          exact .inl (congrArg orderFinished (Digest.ext h))
      | receipt srcNid connSn => exact .inr (.inl (markMeetsReceipt h))
      | _ => simp only [seedLength] at hlength; omega
  | receipt srcNid connSn =>
      cases q with
      | vaultToken mint => exact absurd h.symm vaultToken_ne_receipt
      | order creator dstNid amount toAmount => exact absurd h.symm (order_ne_receipt hp)
      | orderFinished hash => exact .inr (.inr (markMeetsReceipt h.symm))
      | receipt srcNid' connSn' =>
          obtain ⟨rfl, rfl⟩ := receipt_inj h
          exact .inl rfl
      | _ => simp only [seedLength] at hlength; omega

theorem account_congr (hp : WellSized p.seeds) (hq : WellSized q.seeds)
    (h : p.seedBytes = q.seedBytes) (program : Program) : program.account p = program.account q := by
  rw [Program.account, Program.account, Program.derive, Program.derive, derive_of_wellSized hp,
    derive_of_wellSized hq, search_congr h]

theorem exists_markMeetsReceipt (hname : (Text.toBytes srcNid).length = 9) (connSn : Word128) :
    ∃ hash, MarkMeetsReceipt (orderFinished hash) (receipt srcNid connSn) := by
  have hlength : (receipt srcNid connSn).seedBytes.length = 32 := by
    rw [length_seedBytes, seedLength, hname]
  exact ⟨⟨_, hlength⟩, ⟨_, hlength⟩, srcNid, connSn, rfl, rfl, hname, rfl⟩

/-- Two accounts whose seeds are short enough have the same seed bytes exactly when they are one
account, or one is the mark for a hash and the other a receipt for a network whose name has nine
bytes.  Any such receipt has the seed bytes, and thus the address, of some mark. -/
theorem seedBytes_eq_iff (p q : Purpose) (hp : WellSized p.seeds) (hq : WellSized q.seeds) :
    (p.seedBytes = q.seedBytes ↔ p = q ∨ MarkMeetsReceipt p q ∨ MarkMeetsReceipt q p) ∧
      ∀ srcNid connSn, p = receipt srcNid connSn → (Text.toBytes srcNid).length = 9 →
        ∃ hash, (orderFinished hash).seedBytes = p.seedBytes ∧
          ∀ program : Program, program.account (orderFinished hash) = program.account p := by
  constructor
  · constructor
    · exact eq_or_meets_of_seedBytes_eq hp hq
    · rintro (rfl | hmeets | hmeets)
      · rfl
      · exact hmeets.seedBytes_eq
      · exact hmeets.seedBytes_eq.symm
  · rintro srcNid connSn rfl hname
    obtain ⟨hash, hmeets⟩ := exists_markMeetsReceipt hname connSn
    have hbytes := hmeets.seedBytes_eq
    exact ⟨hash, hbytes, account_congr (wellSized_orderFinished hash) hp hbytes⟩

/-- A vault and a receipt with seeds of one length, and a receipt that some mark shares its seeds
with. -/
theorem seedBytes_eq_iff_equal_lengths :
    let vault := vaultToken Address.systemProgram
    let long := receipt "arbitrum-one-mainnet" 7
    let short := receipt "cosmoshub" 7
    vault.seedBytes.length = long.seedBytes.length ∧ vault.seedBytes ≠ long.seedBytes ∧
      ∃ hash, (orderFinished hash).seedBytes = short.seedBytes := by
  intro vault long short
  have hvault : WellSized vault.seeds := wellSized_vaultToken Address.systemProgram
  have hlong : WellSized long.seeds := wellSized_receipt_iff.mpr (by decide)
  have hshort : WellSized short.seeds := wellSized_receipt_iff.mpr (by decide)
  refine ⟨by decide, ?_, ?_⟩
  · intro h
    obtain ⟨hiff, -⟩ := seedBytes_eq_iff vault long hvault hlong
    rcases hiff.mp h with heq | ⟨hash, srcNid, connSn, hmark, -⟩ | ⟨hash, srcNid, connSn, hmark, -⟩
    · simp [vault, long] at heq
    · simp [vault] at hmark
    · simp [long] at hmark
  · obtain ⟨-, hmeets⟩ := seedBytes_eq_iff short short hshort hshort
    obtain ⟨hash, hbytes, -⟩ := hmeets "cosmoshub" 7 rfl (by decide)
    exact ⟨hash, hbytes⟩

end Purpose

end CrossSwap
