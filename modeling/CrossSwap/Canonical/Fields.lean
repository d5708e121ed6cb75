import CrossSwap.Canonical.Error
import CrossSwap.Rlp.Reader
import CrossSwap.Text.Utf8

/-!
# Fields of an entity

A list whose number of items has been checked, and reads of its items by index.  A read moves the
reader's cursor also when it fails, so reads are functions on the fields that give both a result and
the fields after it.
-/

namespace CrossSwap

/-- The items of a list, named for the messages. -/
structure Fields where
  entity : String
  reader : Rlp.Reader
  deriving DecidableEq, Repr

/-- Opens a list of exactly `expected` items.  The cursor stays where the count left it. -/
def Fields.open (entity : String) (expected : Nat) (bs : Bytes) : Except EncodingError Fields :=
  if Rlp.isList bs then
    let counted := (Rlp.Reader.ofBytes bs).count
    if counted.1 = expected then .ok ⟨entity, counted.2⟩
    else .error (.fieldCount entity expected counted.1)
  else .error (.expectedList entity)

/-- A computation that reads fields. -/
abbrev FieldReader (α : Type) : Type :=
  ExceptT EncodingError (StateM Fields) α

namespace FieldReader

/-- The item at an index as a value of a readable type. -/
def value (α : Type) [Rlp.Readable α] (index : Nat) (name : String) : FieldReader α :=
  fun fs =>
    let found := fs.reader.item index
    ((found.1.bind Rlp.Readable.ofItem).mapError (.field fs.entity name),
      { fs with reader := found.2 })

def bytes (index : Nat) (name : String) : FieldReader Bytes :=
  value Bytes index name

/-- The item at an index as UTF-8 text. -/
def text (index : Nat) (name : String) : FieldReader String := do
  let bs ← bytes index name
  match Text.ofBytes? bs with
  | some s => return s
  | none => throw (.invalidUtf8 (← get).entity name)

end FieldReader

/-- The result of a read alone. -/
def Fields.eval {α : Type} (fs : Fields) (read : FieldReader α) : Except EncodingError α :=
  (read fs).1

end CrossSwap
