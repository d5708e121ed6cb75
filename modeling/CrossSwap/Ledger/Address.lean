import CrossSwap.Borsh.Layout
import CrossSwap.Hash.Digest
import CrossSwap.Text.Base58

/-!
# Addresses of the ledger

Thirty-two bytes, written in base 58.
-/

namespace CrossSwap

structure Address where
  toBytes : Bytes
  length_toBytes : toBytes.length = 32
  deriving Repr

namespace Address

@[ext] theorem ext {a b : Address} (h : a.toBytes = b.toBytes) : a = b := by
  cases a; cases b; cases h; rfl

instance : DecidableEq Address := fun a b =>
  decidable_of_iff (a.toBytes = b.toBytes) ⟨Address.ext, congrArg Address.toBytes⟩

def ofDigest (d : Digest) : Address :=
  ⟨d.toBytes, d.length_toBytes⟩

def toText (a : Address) : String :=
  String.ofList (Base58.encode a.toBytes)

/-- The address that a text of at most forty-four bytes writes. -/
def ofText? (s : String) : Option Address := do
  if s.utf8ByteSize ≤ 44 then
    let bs ← Base58.decode? s.toList
    if h : bs.length = 32 then some ⟨bs, h⟩ else none
  else none

def layout : Borsh.Layout Address :=
  (Borsh.Layout.block 32).iso (fun b => ⟨b.1, b.2⟩) (fun a => ⟨a.1, a.2⟩) (fun _ => rfl)
    (fun _ => rfl)

/-- The program that opens accounts, whose bytes are all zero. -/
def systemProgram : Address :=
  ⟨List.replicate 32 0, rfl⟩

/-- The program that keeps token balances. -/
def tokenProgram : Address where
  toBytes :=
    [6, 221, 246, 225, 215, 101, 161, 147, 217, 203, 225, 70, 206, 235, 121, 172, 28, 180, 133, 237,
     95, 91, 55, 145, 58, 140, 245, 133, 126, 255, 0, 169]
  length_toBytes := rfl

/-- The program that derives the token account of an owner. -/
def associatedTokenProgram : Address where
  toBytes :=
    [140, 151, 37, 143, 78, 36, 137, 241, 187, 61, 16, 41, 20, 142, 13, 131, 11, 90, 19, 153, 218,
     255, 16, 132, 4, 142, 123, 216, 219, 233, 248, 89]
  length_toBytes := rfl

end Address

end CrossSwap
