import CrossSwap.Bytes
import CrossSwap.Json.Parser
import CrossSwap.Json.Printer

/-!
# Records in JSON

A record is read from an object or from a list.  In an object the fields stand by name in any order,
each at most once, and members of other names are passed over.  In a list they stand in order, and
none may follow.
-/

namespace CrossSwap.Json

/-- A type with a form in JSON. -/
class Form (α : Type) where
  ofValue : Value → Option α
  toValue : α → Value

/-- The known fields of a record. -/
structure Record where
  fields : List (String × Option Value)
  /-- Whether the record was written as a list. -/
  isList : Bool

/-- Reads a value as a record with the given fields. -/
def Record.ofValue (names : List String) : Value → Option Record
  | .object members => do
    let named ← members.mapM fun m => m.1.map fun key => (key, m.2)
    if names.any fun name => 1 < (named.map Prod.fst).count name then none
    else some ⟨names.map fun name => (name, named.lookup name), false⟩
  | .list items =>
    if items.length ≤ names.length then
      some ⟨names.zipIdx.map fun p => (p.1, items[p.2]?), true⟩
    else none
  | _ => none

namespace Record

variable {α : Type} [Form α]

/-- The value of a field, if the record has it. -/
def value? (r : Record) (name : String) : Option Value :=
  (r.fields.lookup name).join

/-- A field that must be there. -/
def field (r : Record) (name : String) : Option α := do
  Form.ofValue (← r.value? name)

/-- A field with a default. -/
def fieldOr (r : Record) (name : String) (default : α) : Option α :=
  match r.value? name with
  | some v => Form.ofValue v
  | none => some default

/-- A field that may be null, and may be left out of an object. -/
def field? (r : Record) (name : String) : Option (Option α) :=
  match r.value? name with
  | some .null => some none
  | some v => (Form.ofValue v).map some
  | none => if r.isList then none else some none

end Record

/-- The object with the given members. -/
def Value.ofFields (fields : List (String × Value)) : Value :=
  .object (fields.map fun f => (some f.1, f.2))

/-- The natural number that a value writes in digits alone. -/
def Value.natural? : Value → Option Nat
  | .number digits =>
    if digits.isEmpty ∨ ¬ digits.all isDigit then none
    else some (Numeral.value 10 (digits.map fun c => c.toNat - '0'.toNat))
  | _ => none

def Value.ofNat (n : Nat) : Value :=
  .number (Nat.repr n).toList

/-- The member of an enumeration that a value names, by its name alone or as the key of null. -/
def Value.variant? {α : Type} (names : List (String × α)) : Value → Option α
  | .text (some name) => names.lookup name
  | .object [(some name, .null)] => names.lookup name
  | _ => none

instance {w : Nat} : Form (BitVec w) where
  ofValue v := do
    let n ← v.natural?
    let word := BitVec.ofNat w n
    if word.toNat = n then some word else none
  toValue n := .ofNat n.toNat

instance : Form UInt8 where
  ofValue v := do
    let n ← v.natural?
    if n < UInt8.size then some (UInt8.ofNat n) else none
  toValue b := .ofNat b.toNat

instance : Form String where
  ofValue
    | .text content => content
    | _ => none
  toValue s := .text (some s)

instance : Form Bool where
  ofValue
    | .boolean b => some b
    | _ => none
  toValue := .boolean

instance {α : Type} [Form α] : Form (List α) where
  ofValue
    | .list items => items.mapM Form.ofValue
    | _ => none
  toValue as := .list (as.map Form.toValue)

/-- Reads a text as a value of a type. -/
def decode (α : Type) [Form α] (s : String) : Option α :=
  parse s >>= Form.ofValue

/-- The text of a value of a type. -/
def encode {α : Type} [Form α] (a : α) : String :=
  (Form.toValue a).render

end CrossSwap.Json
