import CrossSwap.Numeral

/-!
# Byte strings

A byte string is a list of bytes, so every format of the library is a function on lists.  Numbers
are written in a fixed number of bytes, least or most significant byte first, or in as few bytes as
they need.  Hexadecimal text has two lower-case digits for each byte.
-/

namespace CrossSwap

abbrev Bytes := List UInt8

/-- Ids, amounts and sequence numbers. -/
abbrev Word128 := BitVec 128

/-- Rates and times. -/
abbrev Word64 := BitVec 64

namespace Bytes

/-- The `k` low bytes of `n`, least significant first. -/
def ofNatLE : Nat → Nat → Bytes
  | 0, _ => []
  | k + 1, n => UInt8.ofNat n :: ofNatLE k (n / 256)

/-- The `k` low bytes of `n`, most significant first. -/
def ofNatBE (k n : Nat) : Bytes :=
  (ofNatLE k n).reverse

/-- The number whose bytes are given least significant first. -/
def toNatLE : Bytes → Nat
  | [] => 0
  | b :: rest => b.toNat + 256 * toNatLE rest

/-- The number whose bytes are given most significant first. -/
def toNatBE (bs : Bytes) : Nat :=
  bs.foldl (fun n b => n * 256 + b.toNat) 0

/-- The fewest bytes that hold `n`, most significant first; none for zero. -/
def minimal (n : Nat) : Bytes :=
  (Numeral.digits 256 n).map UInt8.ofNat

@[simp] theorem length_ofNatLE (k n : Nat) : (ofNatLE k n).length = k := by
  induction k generalizing n with
  | zero => rfl
  | succ k ih => simp [ofNatLE, ih]

@[simp] theorem length_ofNatBE (k n : Nat) : (ofNatBE k n).length = k := by
  simp [ofNatBE]

theorem toNatLE_ofNatLE (k n : Nat) : toNatLE (ofNatLE k n) = n % Nat.pow 256 k := by
  induction k generalizing n with
  | zero => simp [ofNatLE, toNatLE, Nat.mod_one]
  | succ k ih =>
    have hk : Nat.pow 256 (k + 1) = 256 * Nat.pow 256 k := Nat.mul_comm ..
    rw [ofNatLE, toNatLE, ih, UInt8.toNat_ofNat', hk, Nat.mod_mul]

theorem ofNatLE_toNatLE (bs : Bytes) : ofNatLE bs.length (toNatLE bs) = bs := by
  induction bs with
  | nil => rfl
  | cons b rest ih =>
    have hb := b.toNat_lt
    have hdiv : (b.toNat + 256 * toNatLE rest) / 256 = toNatLE rest := by omega
    have hmod : UInt8.ofNat (b.toNat + 256 * toNatLE rest) = b := by
      rw [← UInt8.toNat_inj, UInt8.toNat_ofNat']
      omega
    simp only [List.length_cons, toNatLE, ofNatLE, hdiv, hmod, ih]

theorem toNatLE_lt (bs : Bytes) : toNatLE bs < Nat.pow 256 bs.length := by
  induction bs with
  | nil => simp [toNatLE]
  | cons b rest ih =>
    have hb := b.toNat_lt
    have hk : Nat.pow 256 (b :: rest).length = Nat.pow 256 rest.length * 256 := rfl
    rw [toNatLE, hk]
    omega

end Bytes

/-- The digit that stands for a number below 16. -/
def hexDigit (n : Nat) : Char :=
  "0123456789abcdef".toList.getD n '0'

/-- The number that a hexadecimal digit of either case stands for. -/
def hexValue? (c : Char) : Option Nat :=
  if '0' ≤ c ∧ c ≤ '9' then some (c.toNat - '0'.toNat)
  else if 'a' ≤ c ∧ c ≤ 'f' then some (c.toNat - 'a'.toNat + 10)
  else if 'A' ≤ c ∧ c ≤ 'F' then some (c.toNat - 'A'.toNat + 10)
  else none

namespace Bytes

/-- Two lower-case hexadecimal digits for each byte. -/
def toHex (bs : Bytes) : String :=
  String.ofList (bs.flatMap fun b => [hexDigit (b.toNat / 16), hexDigit (b.toNat % 16)])

/-- The bytes written as pairs of hexadecimal digits. -/
def ofHexDigits? : List Char → Option Bytes
  | [] => some []
  | [_] => none
  | c :: d :: rest => do
    let high ← hexValue? c
    let low ← hexValue? d
    return UInt8.ofNat (high * 16 + low) :: (← ofHexDigits? rest)

def ofHex? (s : String) : Option Bytes :=
  ofHexDigits? s.toList

end Bytes

/-- The decimal text of a word. -/
def decimal {w : Nat} (n : BitVec w) : String :=
  Nat.repr n.toNat

end CrossSwap
