import CrossSwap.Proofs.Ledger.Derivation
import CrossSwap.Proofs.Resolve.Condition
import CrossSwap.Resolve.Request

/-!
# What requests require

For each request the conditions that it has to meet, in the order in which they are checked, and the
searches for a bump that its accounts need.
-/

namespace CrossSwap

open Derived

/-! ## Conditions -/

/-- A text names the native asset or, by its mint, a token. -/
def NamesAsset (value : String) : Prop :=
  value = nativeAsset ∨ (Address.ofText? value).isSome

instance (value : String) : Decidable (NamesAsset value) :=
  inferInstanceAs (Decidable (_ ∨ _))

namespace Condition

def address (field value : String) : Condition :=
  ⟨(Address.ofText? value).isSome, .invalidAddress field⟩

def asset (field value : String) : Condition :=
  ⟨decide (NamesAsset value), .unsupportedAsset field value⟩

def signedByCreator (signer : Address) (order : SwapOrder) : Condition :=
  ⟨decide (Address.ofText? order.creator = some signer), .signerMismatch⟩

/-- The name of a network fits a seed. -/
def networkSeed (name nid : String) : Condition :=
  ⟨decide ((Text.toBytes nid).length ≤ 32),
    .derivation (.seedTooLong name (Text.toBytes nid).length)⟩

def assignedId (order : SwapOrder) : Condition :=
  ⟨order.hasId, .unassignedOrderId⟩

def acceptedRate (rate : Word64) : Condition :=
  ⟨decide (rate.toNat ≤ 10000), .fee (.invalidProtocolFee rate)⟩

def fromNetwork (srcNid nid : String) : Condition :=
  ⟨decide (srcNid = nid), .networkMismatch nid srcNid⟩

end Condition

section Requests

open Condition

def createConditions (signer : Address) (order : SwapOrder) : List Condition :=
  [address "creator" order.creator, signedByCreator signer order, asset "token" order.token,
    networkSeed "dst_nid" order.dstNid]

def releaseConditions (order : SwapOrder) : List Condition :=
  [address "creator" order.creator, asset "token" order.token, networkSeed "dst_nid" order.dstNid]

def fillConditions (order : SwapOrder) (solverAddress : String) (snapshot : Snapshot) :
    List Condition :=
  [assignedId order, ⟨decide (solverAddress ≠ ""), .missingSolver⟩,
    ⟨decide (order.destinationAddress ≠ ""), .missingDestination⟩,
    address "destination_address" order.destinationAddress, asset "to_token" order.toToken,
    acceptedRate snapshot.protocolFee] ++
    if order.isSameNetwork then
      address "solver_address" solverAddress :: releaseConditions order
    else []

def cancelConditions (signer : Address) (order : SwapOrder) : List Condition :=
  [address "creator" order.creator, signedByCreator signer order,
    networkSeed "dst_nid" order.dstNid] ++
    if order.isSameNetwork then [assignedId order] else []

def settleConditions (envelope : Envelope) : List Condition :=
  match envelope.resolution with
  | .fill f =>
      fromNetwork envelope.key.srcNid envelope.order.dstNid :: address "solver" f.solver ::
        releaseConditions envelope.order
  | .cancel _ =>
      [fromNetwork envelope.key.srcNid envelope.order.srcNid, assignedId envelope.order]

def deliveryConditions (signer : Address) (snapshot : Snapshot) (envelope : Envelope) :
    List Condition :=
  ⟨decide (snapshot.admin = signer), .signerMismatch⟩ ::
    networkSeed "src_nid" envelope.key.srcNid :: settleConditions envelope

/-- What a request has to meet, in the order in which it is checked. -/
def Request.conditions (snapshot : Snapshot) : Request → List Condition
  | create signer order => createConditions signer order
  | fill _ order solverAddress => fillConditions order solverAddress snapshot
  | cancel signer order => cancelConditions signer order
  | receiveMessage signer srcNid connSn msg =>
      match Envelope.decode srcNid connSn msg with
      | .ok envelope => deliveryConditions signer snapshot envelope
      | .error e => [⟨false, .encoding e⟩]

end Requests

/-! ## Searches -/

/-- A search for a bump: the program that the address will belong to, and the seeds. -/
structure BumpSearch where
  owner : Address
  seeds : List Seed
  deriving DecidableEq, Repr

def BumpSearch.Succeeds (s : BumpSearch) : Prop :=
  Viable s.owner s.seeds

instance (s : BumpSearch) : Decidable s.Succeeds :=
  inferInstanceAs (Decidable (Viable _ _))

/-- The search for an owner's wallet. -/
def walletSearch (owner mint : Address) : BumpSearch :=
  ⟨Address.associatedTokenProgram, walletSeeds owner mint⟩

/-- The searches for the wallets that a payment moves between. -/
def paymentSearches (owners : List Address) : Asset → List BumpSearch
  | .native => []
  | .token mint => owners.map (walletSearch · mint)

/-- The asset that a text names. -/
def Asset.ofText? (value : String) : Option Asset :=
  if value = nativeAsset then some .native else (Address.ofText? value).map .token

namespace Program

variable (program : Program)

def searchFor (purpose : Purpose) : BumpSearch :=
  ⟨program.address, purpose.seeds⟩

/-- The searches for the vault of an asset and for an owner's wallet. -/
def vaultSearches (owner : Address) : Asset → List BumpSearch
  | .native => [program.searchFor .vaultNative]
  | .token mint => [program.searchFor (.vaultToken mint), walletSearch owner mint]

def escrowSearches (order : SwapOrder) : List BumpSearch :=
  (Address.ofText? order.creator).toList.map fun creator =>
    program.searchFor (.order creator order.dstNid order.amount order.toAmount)

def releaseSearches (order : SwapOrder) (solverAddress : String) : List BumpSearch :=
  program.searchFor .config :: program.escrowSearches order ++
    (Address.ofText? solverAddress).toList.flatMap fun solver =>
      (Asset.ofText? order.token).toList.flatMap (program.vaultSearches solver)

def settleSearches (envelope : Envelope) : List BumpSearch :=
  match envelope.resolution with
  | .fill f => program.releaseSearches envelope.order f.solver
  | .cancel c => [program.searchFor (.orderFinished (Keccak.digest c.orderBytes))]

/-- The searches for the accounts that a request needs. -/
def searches (snapshot : Snapshot) : Request → List BumpSearch
  | .create signer order =>
      program.searchFor .config :: program.escrowSearches order ++
        (Asset.ofText? order.token).toList.flatMap (program.vaultSearches signer)
  | .fill signer order solverAddress =>
      program.searchFor .config :: program.searchFor (.orderFinished order.hash) ::
        ((Address.ofText? order.destinationAddress).toList.flatMap fun destination =>
          (Asset.ofText? order.toToken).toList.flatMap
            (paymentSearches [snapshot.feeHandler, destination, signer])) ++
        if order.isSameNetwork then program.releaseSearches order solverAddress else []
  | .cancel _ order =>
      program.searchFor .config :: program.escrowSearches order ++
        if order.isSameNetwork then [program.searchFor (.orderFinished order.hash)] else []
  | .receiveMessage _ srcNid connSn msg =>
      match Envelope.decode srcNid connSn msg with
      | .ok envelope =>
          program.searchFor .config :: program.searchFor (.receipt srcNid connSn) ::
            program.settleSearches envelope
      | .error _ => []

/-- A bump is found for every account that a request needs. -/
def FindsBumps (request : Request) (snapshot : Snapshot) : Prop :=
  ∀ s ∈ program.searches snapshot request, s.Succeeds

instance (request : Request) (snapshot : Snapshot) :
    Decidable (program.FindsBumps request snapshot) :=
  inferInstanceAs (Decidable (∀ s ∈ _, _))

end Program

end CrossSwap
