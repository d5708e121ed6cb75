import CrossSwap.Proofs.Resolve.Accounts
import CrossSwap.Proofs.Resolve.Request
import CrossSwap.Proofs.Text.Base58

/-!
# Each address and each asset has one name

Orders are told apart by their texts and accounts by the addresses that the texts name.  The two agree,
since no address has a second text.  The system program's address has the text of the native asset, so
it names no token.
-/

namespace CrossSwap

theorem Address.toText_systemProgram : Address.systemProgram.toText = nativeAsset := by
  decide +kernel

section Addresses

variable {field field' value value' : String} {a : Address} {e : ResolveError}

theorem parseAddress_eq_ok_iff_toText : parseAddress field value = .ok a ↔ value = a.toText :=
  parseAddress_eq_ok_iff.trans Address.ofText?_eq_some_iff

theorem parseAddress_eq_error_iff :
    parseAddress field value = .error e ↔
      (∀ a : Address, value ≠ a.toText) ∧ e = .invalidAddress field := by
  simp only [ne_eq, ← Address.ofText?_eq_some_iff, parseAddress]
  cases Address.ofText? value with
  | none => simp [eq_comm]
  | some a => simp

theorem value_eq_of_parseAddress (h : parseAddress field value = .ok a)
    (h' : parseAddress field' value' = .ok a) : value = value' := by
  rw [parseAddress_eq_ok_iff_toText] at h h'
  rw [h, h']

end Addresses

namespace Asset

variable {field field' value value' : String} {asset : Asset} {mint : Address} {e : ResolveError}

theorem parse_eq_native_iff : parse field value = .ok .native ↔ value = nativeAsset :=
  parse_eq_ok_iff

theorem parse_eq_token_iff :
    parse field value = .ok (.token mint) ↔
      value = mint.toText ∧ mint ≠ Address.systemProgram := by
  rw [parse_eq_ok_iff]
  simp only [Address.ofText?_eq_some_iff]
  constructor
  · rintro ⟨hforeign, rfl⟩
    refine ⟨rfl, ?_⟩
    rintro rfl
    exact hforeign Address.toText_systemProgram
  · rintro ⟨rfl, hmint⟩
    refine ⟨?_, rfl⟩
    intro hnative
    apply hmint
    -- The text of the native asset is read as the system program's address and as no other.
    have hread := Address.ofText?_toText mint
    rw [hnative, ← Address.toText_systemProgram, Address.ofText?_toText] at hread
    exact (Option.some.inj hread).symm

theorem parse_eq_error_iff :
    parse field value = .error e ↔
      (∀ a : Address, value ≠ a.toText) ∧ e = .unsupportedAsset field value := by
  by_cases hnative : value = nativeAsset
  · have hnamed : value = Address.systemProgram.toText :=
      hnative.trans Address.toText_systemProgram.symm
    rw [parse_eq_native_iff.mpr hnative]
    constructor
    · intro h
      cases h
    · rintro ⟨hnone, -⟩
      exact absurd hnamed (hnone _)
  · simp only [ne_eq, ← Address.ofText?_eq_some_iff]
    rw [parse, if_neg hnative]
    cases Address.ofText? value with
    | none => simp [eq_comm]
    | some mint => simp

theorem value_eq_of_parse (h : parse field value = .ok asset)
    (h' : parse field' value' = .ok asset) : value = value' := by
  cases asset with
  | native => exact (parse_eq_native_iff.mp h).trans (parse_eq_native_iff.mp h').symm
  | token mint => exact (parse_eq_token_iff.mp h).1.trans (parse_eq_token_iff.mp h').1.symm

end Asset

namespace Program

variable {program : Program} {signer : Address} {order : SwapOrder} {solverAddress : String}
  {snapshot : Snapshot} {r : Resolved}

theorem names_of_create (h : program.resolve (.create signer order) snapshot = .ok r) :
    order.creator = signer.toText ∧ (order.token = nativeAsset ∨
      ∃ mint, r.accounts[7]? = some ⟨mint, false, false⟩ ∧ order.token = mint.toText) := by
  obtain ⟨creator, hcreator, rfl, asset, hasset, config, -, escrow, -, deposit, hdeposit, rfl⟩ :=
    resolveCreate_eq_ok_iff.mp h
  refine ⟨parseAddress_eq_ok_iff_toText.mp hcreator, ?_⟩
  obtain ⟨vault, -, hdeposit⟩ := depositAccounts_eq_ok_iff.mp hdeposit
  cases asset with
  | native => exact .inl (Asset.parse_eq_native_iff.mp hasset)
  | token mint =>
      obtain ⟨wallet, -, rfl⟩ := hdeposit
      exact .inr ⟨mint, rfl, (Asset.parse_eq_token_iff.mp hasset).1⟩

theorem names_of_fill
    (h : program.resolve (.fill signer order solverAddress) snapshot = .ok r) :
    (∃ destination, r.accounts[4]? = some ⟨destination, true, false⟩ ∧
        order.destinationAddress = destination.toText) ∧
      (order.toToken = nativeAsset ∨
        ∃ mint, r.accounts[9]? = some ⟨mint, false, false⟩ ∧ order.toToken = mint.toText) := by
  obtain ⟨-, -, -, destination, hdestination, asset, hasset, split, -, config, -, finished, -,
    payment, hpayment, released, -, rfl⟩ := resolveFill_eq_ok_iff.mp h
  refine ⟨⟨destination, rfl, parseAddress_eq_ok_iff_toText.mp hdestination⟩, ?_⟩
  rw [paymentAccounts_eq_ok_iff] at hpayment
  cases asset with
  | native => exact .inl (Asset.parse_eq_native_iff.mp hasset)
  | token mint =>
      obtain ⟨feeWallet, -, destinationWallet, -, payerWallet, -, rfl⟩ := hpayment
      exact .inr ⟨mint, rfl, (Asset.parse_eq_token_iff.mp hasset).1⟩

end Program

/-- A text is accepted as an address exactly if the address is written as it, and as a token exactly
if the mint is, the system program's address apart, whose text is the native asset.  Any other text is
refused.  So orders that differ in the text of an address or asset name different ones, and these are
the ones in the accounts of a request. -/
theorem named_by_one_text :
    (∀ field value a, parseAddress field value = .ok a ↔ value = a.toText) ∧
      (∀ field value e, parseAddress field value = .error e ↔
        (∀ a : Address, value ≠ a.toText) ∧ e = .invalidAddress field) ∧
      (∀ field value, Asset.parse field value = .ok .native ↔ value = nativeAsset) ∧
      (∀ field value mint, Asset.parse field value = .ok (.token mint) ↔
        value = mint.toText ∧ mint ≠ Address.systemProgram) ∧
      (∀ field value e, Asset.parse field value = .error e ↔
        (∀ a : Address, value ≠ a.toText) ∧ e = .unsupportedAsset field value) ∧
      Address.systemProgram.toText = nativeAsset ∧
      (∀ (order order' : SwapOrder) (a : Address) (asset : Asset),
        (order.creator ≠ order'.creator → parseAddress "creator" order.creator = .ok a →
          parseAddress "creator" order'.creator ≠ .ok a) ∧
        (order.destinationAddress ≠ order'.destinationAddress →
          parseAddress "destination_address" order.destinationAddress = .ok a →
          parseAddress "destination_address" order'.destinationAddress ≠ .ok a) ∧
        (order.token ≠ order'.token → Asset.parse "token" order.token = .ok asset →
          Asset.parse "token" order'.token ≠ .ok asset) ∧
        (order.toToken ≠ order'.toToken → Asset.parse "to_token" order.toToken = .ok asset →
          Asset.parse "to_token" order'.toToken ≠ .ok asset)) ∧
      ∀ (program : Program) (signer : Address) (order : SwapOrder) (solverAddress : String)
        (snapshot : Snapshot) (r : Resolved),
        (program.resolve (.create signer order) snapshot = .ok r →
          order.creator = signer.toText ∧ (order.token = nativeAsset ∨
            ∃ mint, r.accounts[7]? = some ⟨mint, false, false⟩ ∧ order.token = mint.toText)) ∧
        (program.resolve (.fill signer order solverAddress) snapshot = .ok r →
          (∃ destination, r.accounts[4]? = some ⟨destination, true, false⟩ ∧
            order.destinationAddress = destination.toText) ∧
          (order.toToken = nativeAsset ∨
            ∃ mint, r.accounts[9]? = some ⟨mint, false, false⟩ ∧ order.toToken = mint.toText)) := by
  refine ⟨?_, ?_, ?_, ?_, ?_, Address.toText_systemProgram, ?_, ?_⟩
  · exact fun field value a => parseAddress_eq_ok_iff_toText
  · exact fun field value e => parseAddress_eq_error_iff
  · exact fun field value => Asset.parse_eq_native_iff
  · exact fun field value mint => Asset.parse_eq_token_iff
  · exact fun field value e => Asset.parse_eq_error_iff
  · intro order order' a asset
    refine ⟨?_, ?_, ?_, ?_⟩
    · exact fun hne h h' => hne (value_eq_of_parseAddress h h')
    · exact fun hne h h' => hne (value_eq_of_parseAddress h h')
    · exact fun hne h h' => hne (Asset.value_eq_of_parse h h')
    · exact fun hne h h' => hne (Asset.value_eq_of_parse h h')
  · intro program signer order solverAddress snapshot r
    exact ⟨Program.names_of_create, Program.names_of_fill⟩

/-- An order over the native asset, and one whose texts differ from its texts in the last letter. -/
theorem named_by_one_text_last_letter :
    let program : Program := ⟨Address.associatedTokenProgram⟩
    let signer := Address.tokenProgram
    let text := "11111111111111111111111111111112"
    let mint : Address := ⟨List.replicate 31 0 ++ [1], rfl⟩
    let order : SwapOrder :=
      { id := 2, emitter := "", srcNid := "a", dstNid := "b"
        creator := "TokenkegQfeZyiNwAJbNbGKPFXCWuBvf9Ss623VQ5DA", destinationAddress := nativeAsset
        token := nativeAsset, amount := 5, toToken := nativeAsset, toAmount := 5, data := [] }
    let renamed : SwapOrder :=
      { order with creator := text, destinationAddress := text, token := text, toToken := text }
    let paid : SwapOrder := { order with creator := "", token := "" }
    let snapshot : Snapshot := ⟨Address.systemProgram, Address.tokenProgram, "a", 30, 0, 0⟩
    Asset.parse "token" renamed.token = .ok (.token mint) ∧
      Asset.parse "token" order.token ≠ .ok (.token mint) ∧
      Asset.parse "to_token" order.toToken ≠ .ok (.token mint) ∧
      parseAddress "creator" order.creator ≠ .ok mint ∧
      parseAddress "destination_address" order.destinationAddress ≠ .ok mint ∧
      order.creator = signer.toText ∧
      ∃ r destination, program.resolve (.fill signer paid "s") snapshot = .ok r ∧
        r.accounts[4]? = some ⟨destination, true, false⟩ ∧ nativeAsset = destination.toText := by
  intro program signer text mint order renamed paid snapshot
  obtain ⟨haddress, -, -, htoken, -, -, hdiffer, hnames⟩ := named_by_one_text
  have htext : text = mint.toText := by decide +kernel
  have hparse (field : String) : Asset.parse field text = .ok (.token mint) :=
    (htoken field text mint).mpr ⟨htext, by decide⟩
  have hread (field : String) : parseAddress field text = .ok mint :=
    (haddress field text mint).mpr htext
  have hforeign : text ≠ nativeAsset := by decide
  obtain ⟨hcreator, hdestination, htoken, htoToken⟩ := hdiffer renamed order mint (.token mint)
  have hcreated : (program.resolve (.create signer order) snapshot).isOk = true := by decide +kernel
  have hfilled : (program.resolve (.fill signer paid "s") snapshot).isOk = true := by decide +kernel
  obtain ⟨created, hcreated⟩ := exists_eq_ok_of_isOk hcreated
  obtain ⟨filled, hfilled⟩ := exists_eq_ok_of_isOk hfilled
  obtain ⟨hsigner, -⟩ := (hnames program signer order "s" snapshot created).1 hcreated
  obtain ⟨⟨destination, hplace, hpaid⟩, -⟩ :=
    (hnames program signer paid "s" snapshot filled).2 hfilled
  refine ⟨hparse "token", ?_, ?_, ?_, ?_, hsigner, filled, destination, hfilled, hplace, hpaid⟩
  · exact htoken hforeign (hparse "token")
  · exact htoToken hforeign (hparse "to_token")
  · exact hcreator (by decide) (hread "creator")
  · exact hdestination hforeign (hread "destination_address")

end CrossSwap
