import CrossSwap.Hash.Digest

/-!
# Keccak-256

The sponge with a rate of 136 bytes and the padding bytes `01 … 80`.  The state is a list of
twenty-five lanes, lane `(x, y)` at position `5 * y + x`.
-/

namespace CrossSwap.Keccak

abbrev Lanes := List UInt64

def lane (s : Lanes) (x y : Nat) : UInt64 :=
  s.getD (5 * (y % 5) + x % 5) 0

/-- The lane at each position, from its column and row. -/
def build (f : Nat → Nat → UInt64) : Lanes :=
  (List.range 25).map fun i => f (i % 5) (i / 5)

def rotl (w : UInt64) (k : UInt64) : UInt64 :=
  if k = 0 then w else (w <<< k) ||| (w >>> (64 - k))

def roundConstants : List UInt64 :=
  [0x0000000000000001, 0x0000000000008082, 0x800000000000808a, 0x8000000080008000,
   0x000000000000808b, 0x0000000080000001, 0x8000000080008081, 0x8000000000008009,
   0x000000000000008a, 0x0000000000000088, 0x0000000080008009, 0x000000008000000a,
   0x000000008000808b, 0x800000000000008b, 0x8000000000008089, 0x8000000000008003,
   0x8000000000008002, 0x8000000000000080, 0x000000000000800a, 0x800000008000000a,
   0x8000000080008081, 0x8000000000008080, 0x0000000080000001, 0x8000000080008008]

/-- How far each lane is rotated. -/
def offsets : List UInt64 :=
  [0, 1, 62, 28, 27, 36, 44, 6, 55, 20, 3, 10, 43, 25, 39, 41, 45, 15, 21, 8, 18, 2, 61, 56, 14]

/-- The parity of a column. -/
def parity (s : Lanes) (x : Nat) : UInt64 :=
  lane s x 0 ^^^ lane s x 1 ^^^ lane s x 2 ^^^ lane s x 3 ^^^ lane s x 4

/-- Each lane takes in the parities of two neighbouring columns. -/
def theta (s : Lanes) : Lanes :=
  let c := (List.range 5).map (parity s)
  build fun x y => lane s x y ^^^ c.getD ((x + 4) % 5) 0 ^^^ rotl (c.getD ((x + 1) % 5) 0) 1

/-- Each lane is rotated and moves to a new place. -/
def rhoPi (s : Lanes) : Lanes :=
  build fun x y =>
    let source := x + 3 * y
    rotl (lane s source x) (offsets.getD (5 * x + source % 5) 0)

/-- Each lane takes in a product of the two lanes after it in its row. -/
def chi (s : Lanes) : Lanes :=
  build fun x y => lane s x y ^^^ (~~~(lane s (x + 1) y) &&& lane s (x + 2) y)

/-- The round constant goes into the first lane. -/
def iota (constant : UInt64) : Lanes → Lanes
  | [] => []
  | w :: rest => (w ^^^ constant) :: rest

def round (s : Lanes) (constant : UInt64) : Lanes :=
  iota constant (chi (rhoPi (theta s)))

def permute (s : Lanes) : Lanes :=
  roundConstants.foldl round s

/-- The first `k` groups of eight bytes as lanes. -/
def lanes : Nat → Bytes → Lanes
  | 0, _ => []
  | k + 1, bs => UInt64.ofNat (Bytes.toNatLE (bs.take 8)) :: lanes k (bs.drop 8)

/-- The first `k` blocks of 136 bytes, each as twenty-five lanes of which the last eight are zero. -/
def blocks : Nat → Bytes → List Lanes
  | 0, _ => []
  | k + 1, bs => lanes 25 (bs.take 136) :: blocks k (bs.drop 136)

/-- As many bytes as fill the last block, at least one: the first has its lowest bit set and the
last its highest. -/
def padding (length : Nat) : Bytes :=
  match 136 - length % 136 with
  | 0 => []
  | 1 => [0x81]
  | k + 2 => 0x01 :: List.replicate k 0 ++ [0x80]

def absorb (s : Lanes) (block : Lanes) : Lanes :=
  permute (List.zipWith (· ^^^ ·) s block)

def finalState (message : Bytes) : Lanes :=
  let padded := message ++ padding message.length
  (blocks (padded.length / 136) padded).foldl absorb (List.replicate 25 0)

/-- The digest of a message: the first four lanes of the last state. -/
def digest (message : Bytes) : Digest where
  toBytes :=
    let s := finalState message
    [lane s 0 0, lane s 1 0, lane s 2 0, lane s 3 0].flatMap fun w => Bytes.ofNatLE 8 w.toNat
  length_toBytes := by simp

end CrossSwap.Keccak
