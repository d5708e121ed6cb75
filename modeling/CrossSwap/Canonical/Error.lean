import CrossSwap.Rlp.Fault

/-!
# Refused encodings

Each cause names the entity, and the field where there is one, so that a caller can tell which part
of a message was refused.
-/

namespace CrossSwap

inductive EncodingError where
  | truncated (entity : String) (needed : Nat)
  | trailingBytes (entity : String) (count : Nat)
  | expectedList (entity : String)
  | fieldCount (entity : String) (expected found : Nat)
  | malformed (entity : String) (fault : Rlp.Fault)
  | field (entity field : String) (fault : Rlp.Fault)
  | invalidUtf8 (entity field : String)
  | unknownMessageType (code : Nat)
  deriving DecidableEq, Repr

namespace EncodingError

def message : EncodingError → String
  | truncated entity needed => s!"{entity}: input truncated, needed {needed} more bytes"
  | trailingBytes entity count => s!"{entity}: {count} trailing bytes after the encoded value"
  | expectedList entity => s!"{entity}: expected a list"
  | fieldCount entity expected found => s!"{entity}: expected {expected} fields, found {found}"
  | malformed entity fault => s!"{entity}: {fault.message}"
  | field entity name fault => s!"{entity}.{name}: {fault.message}"
  | invalidUtf8 entity name => s!"{entity}.{name}: invalid UTF-8"
  | unknownMessageType code => s!"OrderMessage.message_type: unknown message type {code}"

/-- The fault of the item that a refused entity stands in. -/
def toFault : EncodingError → Rlp.Fault
  | truncated .. => .tooShort
  | trailingBytes .. => .inconsistentLength
  | expectedList .. => .expectedList
  | fieldCount .. => .listLength
  | malformed _ fault => fault
  | field _ _ fault => fault
  | invalidUtf8 .. => .custom "invalid UTF-8 string"
  | unknownMessageType .. => .custom "unknown message type"

end EncodingError

end CrossSwap
