import CrossSwap.Ledger.Account
import CrossSwap.Proofs.Borsh.Layout
import CrossSwap.Proofs.Ledger.Discriminator

/-!
# The data of stored accounts

Data is read as an account exactly when it starts with what the account is stored as.  No stored
account is the start of another, so what follows is padding and what is cut off is missed.
-/

namespace CrossSwap

open Borsh.Layout

namespace StoredAccount

variable {α : Type} [StoredAccount α] {a : α} {d e : Bytes}

theorem length_discriminator (α : Type) [StoredAccount α] :
    (discriminator α).length = discriminatorSize :=
  CrossSwap.length_discriminator .account (name α)

theorem toData_eq_ok_iff :
    toData a = .ok e ↔ ∃ body, layout.write a = .ok body ∧ e = discriminator α ++ body :=
  tagged_eq_ok_iff

theorem ofData_of_lt (h : d.length < discriminatorSize) :
    ofData α d = .error (.tooShort (name α) d.length) :=
  if_pos h

theorem ofData_append {tag : Bytes} (htag : tag.length = discriminatorSize) (body : Bytes) :
    ofData α (tag ++ body) =
      if tag = discriminator α then
        ((layout.read body).map Prod.fst).mapError (.malformed (name α))
      else .error (.discriminatorMismatch (name α)) := by
  rw [ofData, if_neg (not_lt_discriminatorSize htag body), List.take_left' htag,
    List.drop_left' htag]
  by_cases hsame : tag = discriminator α
  · rw [if_neg (not_not_intro hsame), if_pos hsame]
    cases (layout : Borsh.Layout α).read body with
    | error fault => rfl
    | ok read => rfl
  · rw [if_pos hsame, if_neg hsame]

theorem ofData_eq_ok_iff : ofData α d = .ok a ↔ ∃ e, toData a = .ok e ∧ e <+: d := by
  constructor
  · intro h
    by_cases hshort : d.length < discriminatorSize
    · rw [ofData_of_lt hshort] at h
      cases h
    · obtain ⟨tag, body, htag, rfl⟩ := exists_eq_tag_append hshort
      rw [ofData_append htag] at h
      split at h
      · rename_i hsame
        obtain ⟨⟨b, rest⟩, hread, rfl⟩ := map_eq_ok_iff.mp (mapError_eq_ok_iff.mp h)
        obtain ⟨written, hwrite, rfl⟩ := layout.write_read hread
        refine ⟨tag ++ written, toData_eq_ok_iff.mpr ⟨written, hwrite, by rw [hsame]⟩, rest, ?_⟩
        rw [List.append_assoc]
      · cases h
  · rintro ⟨e, hdata, rest, rfl⟩
    obtain ⟨body, hwrite, rfl⟩ := toData_eq_ok_iff.mp hdata
    rw [List.append_assoc, ofData_append (length_discriminator α), if_pos rfl,
      layout.read_write rest hwrite]
    rfl

theorem eq_of_prefix {b : α} {f : Bytes} (ha : toData a = .ok e) (hb : toData b = .ok f)
    (h : e <+: f) : e = f := by
  -- Reading the longer data gives both accounts, so they are one.
  have hread : ofData α f = .ok a := ofData_eq_ok_iff.mpr ⟨e, ha, h⟩
  have hread' : ofData α f = .ok b := ofData_eq_ok_iff.mpr ⟨f, hb, List.prefix_refl f⟩
  have hab : a = b := Except.ok.inj (hread.symm.trans hread')
  rw [hab, hb] at ha
  exact (Except.ok.inj ha).symm

theorem exists_error_of_cut (ha : toData a = .ok e) (hcut : d <+: e) (hne : d ≠ e) :
    ∃ fault, ofData α d = .error fault := by
  cases hread : ofData α d with
  | error fault => exact ⟨fault, rfl⟩
  | ok b =>
      obtain ⟨f, hb, hf⟩ := ofData_eq_ok_iff.mp hread
      have hfe : f = e := eq_of_prefix hb ha (hf.trans hcut)
      have hlength : d.length = e.length :=
        Nat.le_antisymm hcut.length_le (hfe ▸ hf.length_le)
      exact absurd (hcut.eq_of_length hlength) hne

theorem ofData_of_discriminator_ne {β : Type} [StoredAccount β] (h : ofData α d = .ok a)
    (hne : discriminator α ≠ discriminator β) :
    ofData β d = .error (.discriminatorMismatch (name β)) := by
  -- The data starts with the discriminator of the first type, and this is what the other compares.
  obtain ⟨e, hdata, rest, rfl⟩ := ofData_eq_ok_iff.mp h
  obtain ⟨body, -, rfl⟩ := toData_eq_ok_iff.mp hdata
  rw [List.append_assoc, ofData_append (length_discriminator α), if_neg hne]

end StoredAccount

/-! ## The four kinds -/

inductive AccountKind where
  | config
  | order
  | orderFinished
  | receipt
  deriving DecidableEq, Repr

namespace AccountKind

/-- The accounts of a kind. -/
def Carrier : AccountKind → Type
  | config => ConfigAccount
  | order => OrderAccount
  | orderFinished => OrderFinishedAccount
  | receipt => ReceiptAccount

instance : (kind : AccountKind) → StoredAccount kind.Carrier
  | config => inferInstanceAs (StoredAccount ConfigAccount)
  | order => inferInstanceAs (StoredAccount OrderAccount)
  | orderFinished => inferInstanceAs (StoredAccount OrderFinishedAccount)
  | receipt => inferInstanceAs (StoredAccount ReceiptAccount)

def all : List AccountKind :=
  [config, order, orderFinished, receipt]

theorem mem_all (kind : AccountKind) : kind ∈ all := by
  cases kind <;> decide

theorem nodup_discriminators :
    (all.map fun kind => StoredAccount.discriminator kind.Carrier).Nodup := by
  decide +kernel

theorem discriminator_inj {kind other : AccountKind}
    (h : StoredAccount.discriminator kind.Carrier = StoredAccount.discriminator other.Carrier) :
    kind = other :=
  List.inj_on_of_nodup_map nodup_discriminators kind.mem_all other.mem_all h

/-- The texts and byte strings of an account. -/
def contents : {kind : AccountKind} → kind.Carrier → List Bytes
  | config, (a : ConfigAccount) => [Text.toBytes a.networkId]
  | order, (a : OrderAccount) => a.order.contents
  | orderFinished, _ => []
  | receipt, _ => []

/-- The kinds whose first field is a truth value. -/
def HasFlag (kind : AccountKind) : Prop :=
  kind = orderFinished ∨ kind = receipt

variable {kind other : AccountKind} {a : kind.Carrier} {d : Bytes}

theorem writable_layout_iff :
    (StoredAccount.layout : Borsh.Layout kind.Carrier).Writable a ↔
      ∀ c ∈ contents a, c.length < Nat.pow 2 32 := by
  cases kind with
  | config =>
      have hadmin := Address.writable_layout a.admin
      have hhandler := Address.writable_layout a.feeHandler
      have hfee := writable_word 8 a.protocolFee
      have hid := writable_word 16 a.depositId
      have hsn := writable_word 16 a.connSn
      have hbump := writable_byte a.bump
      change (pair Address.layout (pair Address.layout (pair text _))).Writable _ ↔
        ∀ c ∈ [Text.toBytes (ConfigAccount.networkId a)], c.length < Nat.pow 2 32
      simp only [writable_pair_iff, writable_text_iff, hadmin, hhandler, hfee, hid, hsn, hbump,
        true_and, and_true, List.forall_mem_singleton]
  | order =>
      have hbump := writable_byte a.bump
      change (pair SwapOrder.layout byte).Writable (a.order, a.bump) ↔ _
      rw [writable_pair_iff, SwapOrder.writable_layout_iff, and_iff_left hbump]
      rfl
  | orderFinished => exact iff_of_true ⟨_, rfl⟩ (List.forall_mem_nil _)
  | receipt => exact iff_of_true ⟨_, rfl⟩ (List.forall_mem_nil _)

theorem exists_toData_iff :
    (∃ e, StoredAccount.toData a = .ok e) ↔ ∀ c ∈ contents a, c.length < Nat.pow 2 32 :=
  exists_tagged_iff.trans writable_layout_iff

theorem ofData_of_flag (hflag : kind.HasFlag) {b : UInt8} (h0 : b ≠ 0) (h1 : b ≠ 1)
    (rest : Bytes) :
    StoredAccount.ofData kind.Carrier (StoredAccount.discriminator kind.Carrier ++ b :: rest) =
      .error (.malformed (StoredAccount.name kind.Carrier) (.boolean b)) := by
  have hread : (pair flag byte).read (b :: rest) = .error (.boolean b) := by
    simp only [pair, flag, if_neg h0, if_neg h1]
    rfl
  rw [StoredAccount.ofData_append (StoredAccount.length_discriminator _), if_pos rfl]
  rcases hflag with rfl | rfl
  all_goals
    change ((((pair flag byte).read (b :: rest)).map _).map _).mapError _ = _
    rw [hread]
    rfl

/-- Data is read as an account exactly when it starts with what the account is stored as.  So
padding is ignored, whatever is cut off or stands for no truth value is refused, and data of one
kind is refused by every other.  An account can be stored exactly when its texts and byte strings
are shorter than `2 ^ 32` bytes. -/
theorem ofData_iff_stored_prefix (kind : AccountKind) (d : Bytes) :
    (∀ a : kind.Carrier, StoredAccount.ofData kind.Carrier d = .ok a ↔
      ∃ e, StoredAccount.toData a = .ok e ∧ e <+: d) ∧
    (∀ a : kind.Carrier, (∃ e, StoredAccount.toData a = .ok e) ↔
      ∀ c ∈ contents a, c.length < Nat.pow 2 32) ∧
    (∀ (a : kind.Carrier) (e : Bytes), StoredAccount.toData a = .ok e → d <+: e → d ≠ e →
      ∃ fault, StoredAccount.ofData kind.Carrier d = .error fault) ∧
    (kind.HasFlag → ∀ (b : UInt8) (rest : Bytes), b ≠ 0 → b ≠ 1 →
      d = StoredAccount.discriminator kind.Carrier ++ b :: rest →
        StoredAccount.ofData kind.Carrier d =
          .error (.malformed (StoredAccount.name kind.Carrier) (.boolean b))) ∧
    ∀ (a : kind.Carrier) (other : AccountKind), StoredAccount.ofData kind.Carrier d = .ok a →
      other ≠ kind → StoredAccount.ofData other.Carrier d =
        .error (.discriminatorMismatch (StoredAccount.name other.Carrier)) := by
  refine ⟨fun a => StoredAccount.ofData_eq_ok_iff, fun a => exists_toData_iff, ?_, ?_, ?_⟩
  · intro a e hdata hcut hne
    exact StoredAccount.exists_error_of_cut hdata hcut hne
  · rintro hflag b rest h0 h1 rfl
    exact ofData_of_flag hflag h0 h1 rest
  · intro a other hread hne
    exact StoredAccount.ofData_of_discriminator_ne hread fun h => hne (discriminator_inj h).symm

theorem ofData_iff_stored_prefix_receipt :
    let tag : Bytes := [39, 154, 73, 106, 80, 102, 145, 153]
    StoredAccount.ofData ReceiptAccount (tag ++ [1, 254, 0, 0]) = .ok ⟨true, 254⟩ ∧
      (∃ fault, StoredAccount.ofData ReceiptAccount (tag ++ [1]) = .error fault) ∧
      StoredAccount.ofData ReceiptAccount (tag ++ [2, 254]) =
        .error (.malformed "Receipt" (.boolean 2)) ∧
      StoredAccount.ofData OrderFinishedAccount (tag ++ [1, 254, 0, 0]) =
        .error (.discriminatorMismatch "OrderFinished") := by
  intro tag
  have htag : StoredAccount.discriminator ReceiptAccount = tag := by decide +kernel
  have hdata : StoredAccount.toData (⟨true, 254⟩ : ReceiptAccount) = .ok (tag ++ [1, 254]) :=
    StoredAccount.toData_eq_ok_iff.mpr ⟨[1, 254], rfl, by rw [htag]⟩
  obtain ⟨hread, -, -, -, hother⟩ := ofData_iff_stored_prefix .receipt (tag ++ [1, 254, 0, 0])
  obtain ⟨-, -, hcut, -, -⟩ := ofData_iff_stored_prefix .receipt (tag ++ [1])
  obtain ⟨-, -, -, hflag, -⟩ := ofData_iff_stored_prefix .receipt (tag ++ [2, 254])
  have hpadded : StoredAccount.ofData ReceiptAccount (tag ++ [1, 254, 0, 0]) = .ok ⟨true, 254⟩ :=
    (hread (⟨true, 254⟩ : ReceiptAccount)).mpr ⟨tag ++ [1, 254], hdata, [0, 0], rfl⟩
  refine ⟨hpadded, hcut (⟨true, 254⟩ : ReceiptAccount) _ hdata ⟨[254], rfl⟩ (by decide), ?_, ?_⟩
  · exact hflag (.inr rfl) 2 [254] (by decide) (by decide) (congrArg (· ++ [2, 254]) htag.symm)
  · exact hother (⟨true, 254⟩ : ReceiptAccount) .orderFinished hpadded (by decide)

end AccountKind

end CrossSwap
