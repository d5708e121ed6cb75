import CrossSwap.Bytes

/-!
# Points of the Edwards curve over the field of `2 ^ 255 - 19` elements

Thirty-two bytes stand for a point when some `x` satisfies `-x² + y² = 1 + d x² y²` for the `y` that
the low 255 bits give, the last bit being the sign of `x`.  The equation says `x² = u / v` with
`u = y² - 1` and `v = d y² + 1`.  As `v` is never zero, there is such an `x` exactly when `u v` is a
square, and a number is a square when its power to half the order of the field is one.
-/

namespace CrossSwap.Edwards

/-- The number of values that 255 bits have. -/
def range : Nat := 1 <<< 255

def prime : Nat := range - 19

/-- The coefficient `d`, which is `-121665 / 121666`. -/
def coefficient : Nat :=
  37095705934669439343138083508754565189542113879843219016388785533085940283555

/-- `b` to the power that the `k` low bits of `e` stand for, modulo `m`. -/
def powMod (m : Nat) : Nat → Nat → Nat → Nat
  | 0, _, _ => 1
  | k + 1, b, e =>
    let h := powMod m k (b * b % m) (e / 2)
    if e % 2 = 1 then b * h % m else h

/-- Euler's criterion. -/
def isSquare (n : Nat) : Bool :=
  n % prime == 0 || powMod prime 255 (n % prime) ((prime - 1) / 2) == 1

/-- Whether a point has the given `y`. -/
def hasPoint (y : Nat) : Bool :=
  let y2 := y * y % prime
  let u := (y2 + (prime - 1)) % prime
  let v := (coefficient * y2 + 1) % prime
  isSquare (u * v)

/-- Whether a byte string of thirty-two bytes stands for a point. -/
def isPoint (bs : Bytes) : Bool :=
  hasPoint (bs.toNatLE % range)

end CrossSwap.Edwards
