import CrossSwap.Hash.Sha256
import CrossSwap.Text.Utf8

/-!
# Discriminators

Stored accounts, instructions and events start with eight bytes that tell what they are: the first
of the hash of their name.
-/

namespace CrossSwap

/-- What a name is a name of. -/
inductive NameSpace where
  | account
  | event
  | global
  deriving DecidableEq, Repr

def NameSpace.label : NameSpace → String
  | .account => "account"
  | .event => "event"
  | .global => "global"

/-- The number of bytes in a discriminator. -/
def discriminatorSize : Nat := 8

def discriminator (space : NameSpace) (name : String) : Bytes :=
  (Sha256.digest (Text.toBytes (space.label ++ ":" ++ name))).toBytes.take discriminatorSize

@[simp] theorem length_discriminator (space : NameSpace) (name : String) :
    (discriminator space name).length = 8 := by
  simp [discriminator, discriminatorSize, (Sha256.digest _).length_toBytes]

end CrossSwap
