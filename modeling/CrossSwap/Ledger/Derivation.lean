import CrossSwap.Curve.Edwards
import CrossSwap.Hash.Sha256
import CrossSwap.Ledger.Address

/-!
# Derived addresses

A program owns the addresses that are hashes of seeds, a bump and the program's own address, as long
as they are no points of the curve.  The bump is the largest that gives such a hash.
-/

namespace CrossSwap

/-- A seed, with the name that messages show. -/
structure Seed where
  name : String
  bytes : Bytes
  deriving DecidableEq, Repr

inductive DerivationError where
  | seedTooLong (seed : String) (length : Nat)
  | tooManySeeds (count : Nat)
  | noViableBump
  deriving DecidableEq, Repr

def DerivationError.message : DerivationError → String
  | .seedTooLong seed length => s!"Seed {seed} is {length} bytes, at most 32 allowed"
  | .tooManySeeds count => s!"{count} seeds given, at most 15 allowed besides the bump"
  | .noViableBump => "No viable bump seed for program address"

/-- An address and the bump that it was found with. -/
structure Derived where
  address : Address
  bump : UInt8
  deriving DecidableEq, Repr

namespace Derived

/-- The text that ends what is hashed. -/
def marker : Bytes :=
  Text.toBytes "ProgramDerivedAddress"

/-- The hash for a bump. -/
def candidate (program : Address) (seeds : List Bytes) (bump : UInt8) : Digest :=
  Sha256.digest (seeds.flatten ++ bump :: program.toBytes ++ marker)

/-- The first bump from `n` down to one whose hash is no point. -/
def search (program : Address) (seeds : List Bytes) : Nat → Option Derived
  | 0 => none
  | n + 1 =>
    let bump := UInt8.ofNat (n + 1)
    let d := candidate program seeds bump
    if Edwards.isPoint d.toBytes then search program seeds n else some ⟨Address.ofDigest d, bump⟩

/-- The most seeds that one hash takes, the bump among them. -/
def maxSeeds : Nat := 16

def maxSeedLength : Nat := 32

/-- The address that seeds give under a program. -/
def derive (program : Address) (seeds : List Seed) : Except DerivationError Derived :=
  if maxSeeds ≤ seeds.length then .error (.tooManySeeds seeds.length)
  else
    match seeds.find? fun s => maxSeedLength < s.bytes.length with
    | some s => .error (.seedTooLong s.name s.bytes.length)
    | none =>
      match search program (seeds.map Seed.bytes) 255 with
      | some d => .ok d
      | none => .error .noViableBump

/-- Seeds named by their position. -/
def numbered (seeds : List Bytes) : List Seed :=
  seeds.zipIdx.map fun p => ⟨s!"#{p.2}", p.1⟩

end Derived

end CrossSwap
