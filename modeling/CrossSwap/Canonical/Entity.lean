import CrossSwap.Canonical.Fields

/-!
# Entities and their canonical bytes

An entity is written as the list of its fields.  `decode` takes one complete list with the entity's
number of items and nothing around it, so bytes of one shape are never read as another.
-/

namespace CrossSwap

/-- Types that are written as a list of fields. -/
class Entity (α : Type) where
  /-- The name that messages show. -/
  name : String
  fieldCount : Nat
  /-- The encoded fields in order. -/
  items : α → List Bytes
  /-- Reads the fields in order. -/
  read : FieldReader α

namespace Entity

variable {α : Type} [Entity α]

/-- The canonical bytes of an entity. -/
def encode (a : α) : Bytes :=
  Rlp.ofItems (items a)

/-- Checks that a byte string is one item, with no bytes missing and none left over. -/
def ensureComplete (entity : String) (bs : Bytes) : Except EncodingError Unit :=
  if bs.isEmpty then .error (.truncated entity 1)
  else
    match Rlp.Header.read bs with
    | .error .tooShort => .error (.truncated entity 1)
    | .error fault => .error (.malformed entity fault)
    | .ok h =>
      if bs.length < h.total then .error (.truncated entity (h.total - bs.length))
      else if h.total < bs.length then .error (.trailingBytes entity (bs.length - h.total))
      else .ok ()

/-- Reads an entity from an item. -/
def ofItem (α : Type) [Entity α] (item : Bytes) : Except EncodingError α := do
  let fs ← Fields.open (name α) (fieldCount α) item
  fs.eval read

/-- Reads an entity from its canonical bytes. -/
def decode (α : Type) [Entity α] (bs : Bytes) : Except EncodingError α := do
  ensureComplete (name α) bs
  ofItem α bs

/-- Entities nest: one can be read where an item is expected. -/
@[reducible] def readable (α : Type) [Entity α] : Rlp.Readable α where
  ofItem item := (ofItem α item).mapError EncodingError.toFault

end Entity

end CrossSwap
