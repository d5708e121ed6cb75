import CrossSwap.Rlp.Header

/-!
# Items

An item is data or a list.  Here items are written, split off the front of a byte string, and read
as bytes or as integers.
-/

namespace CrossSwap.Rlp

/-- The item that holds `bs`.  A single byte below `0x80` stands for itself. -/
def ofData (bs : Bytes) : Bytes :=
  match bs with
  | [b] => if b.toNat < 0x80 then [b] else dataHeader 1 ++ [b]
  | _ => dataHeader bs.length ++ bs

/-- The item that holds a number, in as few bytes as it needs. -/
def ofNat (n : Nat) : Bytes :=
  ofData (Bytes.minimal n)

/-- The list of the given items. -/
def ofItems (items : List Bytes) : Bytes :=
  listHeader items.flatten.length ++ items.flatten

/-- The first item of a byte string, which must hold it as a whole, and the bytes behind it. -/
def splitItem (bs : Bytes) : Except Fault (Bytes × Bytes) := do
  let h ← Header.read bs
  if h.total ≤ bs.length then .ok (bs.splitAt h.total) else .error .tooShort

/-- The bytes behind the first `n` items. -/
def dropItems : Nat → Bytes → Except Fault Bytes
  | 0, bs => .ok bs
  | n + 1, bs => do
    let (_, rest) ← splitItem bs
    dropItems n rest

/-- What an item of data holds.  The item is complete, as `splitItem` gives it. -/
def data : Bytes → Except Fault Bytes
  | [] => .error .tooShort
  | first :: rest =>
    let b := first.toNat
    if b < 0x80 then .ok [first]
    else if b ≤ 0xB7 then
      let content := rest.take (b - 0x80)
      if rest.length < b - 0x80 then .error .inconsistentLength
      else if b = 0x81 ∧ content.all (fun c => c.toNat < 0x80) then .error .indirection
      else .ok content
    else if b ≤ 0xBF then
      let k := b - 0xB7
      let n := Bytes.toNatBE (rest.take k)
      if rest.length < k then .error .inconsistentLength
      else if rest.head? = some 0 then .error .indirection
      else if rest.length < k + n then .error .inconsistentLength
      else .ok ((rest.drop k).take n)
    else .error .expectedData

/-- Types that one item is read as. -/
class Readable (α : Type) where
  ofItem : Bytes → Except Fault α

instance : Readable Bytes where
  ofItem := data

/-- A number of at most `w / 8` bytes without a leading zero. -/
def word (w : Nat) (bs : Bytes) : Except Fault (BitVec w) :=
  if w / 8 < bs.length then .error .tooBig
  else if bs.head? = some 0 then .error .indirection
  else .ok (BitVec.ofNat w bs.toNatBE)

instance {w : Nat} : Readable (BitVec w) where
  ofItem item := data item >>= word w

end CrossSwap.Rlp
