import CrossSwap.Ledger.Address
import CrossSwap.Resolve.Error

/-!
# Assets and addresses named by orders

An order names addresses by their text.  The native asset is named by the text of the system
program's address; any other address names a token by its mint.
-/

namespace CrossSwap

/-- The name of the native asset. -/
def nativeAsset : String :=
  "11111111111111111111111111111111"

inductive Asset where
  | native
  | token (mint : Address)
  deriving DecidableEq, Repr

/-- The asset that a field of an order names. -/
def Asset.parse (field value : String) : Except ResolveError Asset :=
  if value = nativeAsset then .ok .native
  else
    match Address.ofText? value with
    | some mint => .ok (.token mint)
    | none => .error (.unsupportedAsset field value)

def Asset.mint? : Asset → Option Address
  | .native => none
  | .token mint => some mint

/-- The address that a field names. -/
def parseAddress (field value : String) : Except ResolveError Address :=
  match Address.ofText? value with
  | some a => .ok a
  | none => .error (.invalidAddress field)

end CrossSwap
