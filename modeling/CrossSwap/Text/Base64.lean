import CrossSwap.Bytes

/-!
# Base 64

Three bytes are four characters of the standard alphabet.  A last group of one or two bytes is
filled up with `=`; the bits that it does not use must be zero, so that a byte string has exactly
one text.
-/

namespace CrossSwap.Base64

def alphabet : List Char :=
  "ABCDEFGHIJKLMNOPQRSTUVWXYZabcdefghijklmnopqrstuvwxyz0123456789+/".toList

def symbol (sextet : Nat) : Char :=
  alphabet.getD sextet 'A'

def sextet? (c : Char) : Option Nat :=
  alphabet.findIdx? (· == c)

def encode : Bytes → List Char
  | [] => []
  | [a] =>
    let n := a.toNat * 16
    [symbol (n / 64), symbol (n % 64), '=', '=']
  | [a, b] =>
    let n := (a.toNat * 256 + b.toNat) * 4
    [symbol (n / 4096), symbol (n / 64 % 64), symbol (n % 64), '=']
  | a :: b :: c :: rest =>
    let n := (a.toNat * 256 + b.toNat) * 256 + c.toNat
    symbol (n / 262144) :: symbol (n / 4096 % 64) :: symbol (n / 64 % 64) :: symbol (n % 64) ::
      encode rest

def decode? : List Char → Option Bytes
  | [] => some []
  | [w, x, '=', '='] => do
    let n := (← sextet? w) * 64 + (← sextet? x)
    if n % 16 = 0 then some [UInt8.ofNat (n / 16)] else none
  | [w, x, y, '='] => do
    let n := ((← sextet? w) * 64 + (← sextet? x)) * 64 + (← sextet? y)
    if n % 4 = 0 then some [UInt8.ofNat (n / 1024), UInt8.ofNat (n / 4)] else none
  | w :: x :: y :: z :: rest => do
    let n := (((← sextet? w) * 64 + (← sextet? x)) * 64 + (← sextet? y)) * 64 + (← sextet? z)
    return UInt8.ofNat (n / 65536) :: UInt8.ofNat (n / 256) :: UInt8.ofNat n :: (← decode? rest)
  | _ => none

end CrossSwap.Base64
