import CrossSwap.Rlp.Item

/-!
# Reading the items of a list

A reader finds the items of a list by their index and remembers where the last one that it was
asked for starts.  A later index is searched from there on, and then over all the bytes at hand; an
earlier one is searched from the start of the list, and then inside the list only.  Where the bytes
hold nothing but the list, both give the same.
-/

namespace CrossSwap.Rlp

/-- The index last asked for, and the offset where its item starts. -/
structure Cursor where
  index : Nat
  offset : Nat
  deriving DecidableEq, Repr

/-- A byte string that starts with a list. -/
structure Reader where
  bytes : Bytes
  cursor : Option Cursor
  deriving DecidableEq, Repr

def Reader.ofBytes (bs : Bytes) : Reader :=
  ⟨bs, none⟩

/-- A place to search from: the bytes from there on, the items to skip, and its offset. -/
structure Origin where
  bytes : Bytes
  skip : Nat
  offset : Nat

/-- The start of the list, whose payload has to be complete. -/
def Reader.start (r : Reader) (i : Nat) : Except Fault Origin := do
  let h ← Header.read r.bytes
  if h.total ≤ r.bytes.length then
    .ok ⟨(r.bytes.drop h.headerLength).take h.payloadLength, i, h.headerLength⟩
  else .error .tooShort

/-- Where the search for item `i` starts. -/
def Reader.origin (r : Reader) (i : Nat) : Except Fault Origin :=
  match r.cursor with
  | none => r.start i
  | some c =>
    if c.index ≤ i then .ok ⟨r.bytes.drop c.offset, i - c.index, c.offset⟩ else r.start i

/-- Finds item `i`.  Its place is remembered even if the item there is missing or broken. -/
def Reader.item (r : Reader) (i : Nat) : Except Fault Bytes × Reader :=
  if isList r.bytes then
    match r.origin i with
    | .error e => (.error e, r)
    | .ok o =>
      match dropItems o.skip o.bytes with
      | .error e => (.error e, r)
      | .ok rest =>
        ((splitItem rest).map Prod.fst,
          { r with cursor := some ⟨i, o.offset + (o.bytes.length - rest.length)⟩ })
  else (.error .expectedList, r)

/-- Counts the items from index `i` on until one cannot be read, in at most `k` steps. -/
def Reader.countFrom (r : Reader) (i : Nat) : Nat → Nat × Reader
  | 0 => (i, r)
  | k + 1 =>
    match r.item i with
    | (.ok _, r') => r'.countFrom (i + 1) k
    | (.error _, r') => (i, r')

/-- Counts the items up to the first that cannot be read.  Each item takes at least one byte, so
there are fewer of them than bytes. -/
def Reader.count (r : Reader) : Nat × Reader :=
  r.countFrom 0 r.bytes.length

end CrossSwap.Rlp
