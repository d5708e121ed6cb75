import CrossSwap.Ledger.Program

/-!
# Deployments

What a client has to know of one deployment of the program.  A configuration is usable when its
network id can serve as a seed, its endpoint is reached over HTTP, its timeout is positive and its
program has an address; the first of these that fails is the error.
-/

namespace CrossSwap

structure Deployment where
  name : String
  /-- The endpoint that accounts are read from. -/
  rpcUrl : String
  networkId : String
  /-- The address of the program, as text. -/
  programId : String
  timeoutSecs : Word64
  deriving DecidableEq, Repr

/-- Why a configuration cannot be used. -/
inductive ConfigError where
  | emptyNetworkId (name : String)
  | networkIdTooLong (networkId : String)
  | unsupportedUrl (rpcUrl : String)
  | zeroTimeout
  | invalidProgramId (programId : String)
  deriving DecidableEq, Repr

def ConfigError.message : ConfigError → String
  | .emptyNetworkId name => s!"Configuration error: network_id of '{name}' must not be empty"
  | .networkIdTooLong networkId =>
    s!"Configuration error: network_id '{networkId}' exceeds 32 bytes" ++
      " and cannot be used as an address seed"
  | .unsupportedUrl rpcUrl =>
    s!"Configuration error: rpc_url '{rpcUrl}' must start with http:// or https://"
  | .zeroTimeout => "Configuration error: timeout_secs must be positive"
  | .invalidProgramId programId => s!"Invalid program_id '{programId}' (expected base58)"

namespace Deployment

/-- The timeout of a configuration that names none, in seconds. -/
def defaultTimeout : Word64 :=
  30

/-- How the URL of an endpoint may start. -/
def schemes : List String :=
  ["http://", "https://"]

def program (d : Deployment) : Except ConfigError Program :=
  match Address.ofText? d.programId with
  | some address => .ok ⟨address⟩
  | none => .error (.invalidProgramId d.programId)

/-- Checks that a configuration is usable. -/
def validate (d : Deployment) : Except ConfigError Unit := do
  if d.networkId.isEmpty then throw (.emptyNetworkId d.name)
  if Derived.maxSeedLength < d.networkId.utf8ByteSize then throw (.networkIdTooLong d.networkId)
  if ¬ schemes.any fun s => s.toList.isPrefixOf d.rpcUrl.toList then
    throw (.unsupportedUrl d.rpcUrl)
  if d.timeoutSecs = 0 then throw .zeroTimeout
  let _ ← d.program

end Deployment

end CrossSwap
