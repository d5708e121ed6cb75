import CrossSwap.Toml.Node
import CrossSwap.Toml.Text

/-!
# Numbers, dates and times of TOML

Digits may be grouped by single underscores.  Integers have sixty-four bits with sign, and a number
with a fraction or an exponent must not be so large that it rounds to infinity.  A date exists in the
calendar, and a minute may have a leap second.
-/

namespace CrossSwap.Toml

def isDigit (c : Char) : Bool :=
  '0' ≤ c && c ≤ '9'

/-- Digits with single underscores between them: the digits alone, and what follows. -/
def scanMore (inside : Char → Bool) : List Char → List Char × List Char
  | [] => ([], [])
  | '_' :: c :: rest =>
    if inside c then
      let (digits, rest) := scanMore inside rest
      (c :: digits, rest)
    else ([], '_' :: c :: rest)
  | c :: rest =>
    if inside c then
      let (digits, rest) := scanMore inside rest
      (c :: digits, rest)
    else ([], c :: rest)

/-- Like `scanMore`, with a digit in front. -/
def scanGrouped (inside : Char → Bool) : List Char → Option (List Char × List Char)
  | c :: rest =>
    if inside c then
      let (digits, rest) := scanMore inside rest
      some (c :: digits, rest)
    else none
  | [] => none

/-- The number that digits write in a base. -/
def magnitude (base : Nat) (digits : List Char) : Nat :=
  Numeral.value base (digits.map fun c => (hexValue? c).getD 0)

/-- A sign, if there is one. -/
def scanSign : List Char → Option Char × List Char
  | '+' :: rest => (some '+', rest)
  | '-' :: rest => (some '-', rest)
  | cs => (none, cs)

/-- Decimal digits, of which the first is zero only if it stands alone. -/
def scanWhole : List Char → Option (List Char × List Char)
  | '0' :: rest => some (['0'], rest)
  | cs => scanGrouped isDigit cs

/-- The digits behind a point. -/
def scanFraction : List Char → Option (List Char × List Char)
  | '.' :: rest => scanGrouped isDigit rest
  | _ => none

/-- The number behind the letter of an exponent. -/
def scanExponent : List Char → Option (Int × List Char)
  | e :: rest =>
    if e = 'e' ∨ e = 'E' then do
      let (sign, rest) := scanSign rest
      let (digits, rest) ← scanGrouped isDigit rest
      let n := magnitude 10 digits
      return (if sign = some '-' then -(n : Int) else n, rest)
    else none
  | [] => none

/-- The least number that rounds to infinity in binary64. -/
def infinityBound : Nat :=
  1 <<< 1024 - 1 <<< 970

/-- Whether the number `digits` times ten to the power `exponent` rounds to infinity.  The position of
the first digit decides it except next to the bound. -/
def overflows (digits : List Char) (exponent : Int) : Bool :=
  let significant := digits.dropWhile (· == '0')
  let position := significant.length + exponent
  if significant.isEmpty ∨ position < 309 then false
  else if 309 < position then true
  else
    infinityBound * Nat.pow 10 (-exponent).toNat ≤
      magnitude 10 significant * Nat.pow 10 exponent.toNat

/-- What follows a number with a fraction, an exponent or both. -/
def scanDecimal (cs : List Char) : Option (List Char) := do
  let (sign, cs) := scanSign cs
  let (whole, cs) ← scanWhole cs
  let fraction := scanFraction cs
  let (digits, cs) := fraction.getD ([], cs)
  let exponent := scanExponent cs
  let (power, cs) := exponent.getD (0, cs)
  if fraction.isNone ∧ exponent.isNone then none
  else if sign ≠ some '-' ∧ overflows (whole ++ digits) (power - digits.length) then none
  else some cs

/-- What follows the name of infinity or of no number. -/
def scanSpecial (cs : List Char) : Option (List Char) :=
  match (scanSign cs).2 with
  | 'i' :: 'n' :: 'f' :: rest => some rest
  | 'n' :: 'a' :: 'n' :: rest => some rest
  | _ => none

/-- The number that unsigned digits write in a base. -/
def scanBased (base : Nat) (cs : List Char) : Option (Int × List Char) := do
  let (digits, rest) ← scanGrouped (fun c => (hexValue? c).any (· < base)) cs
  return (magnitude base digits, rest)

/-- A whole number, in decimal digits with an optional sign or in another base without. -/
def scanWholeNumber : List Char → Option (Int × List Char)
  | '0' :: 'x' :: rest => scanBased 16 rest
  | '0' :: 'o' :: rest => scanBased 8 rest
  | '0' :: 'b' :: rest => scanBased 2 rest
  | cs => do
    let (sign, cs) := scanSign cs
    let (digits, rest) ← scanWhole cs
    let n := magnitude 10 digits
    return (if sign = some '-' then -(n : Int) else n, rest)

/-- A whole number of sixty-four bits. -/
def scanInteger (cs : List Char) : Option (Int × List Char) := do
  let (n, rest) ← scanWholeNumber cs
  if Int64.minValue.toInt ≤ n ∧ n ≤ Int64.maxValue.toInt then some (n, rest) else none

/-- Exactly `k` digits. -/
def scanCount (k : Nat) (cs : List Char) : Option (Nat × List Char) :=
  let digits := cs.take k
  if digits.length = k ∧ digits.all isDigit then some (magnitude 10 digits, cs.drop k) else none

def expect (c : Char) : List Char → Option (List Char)
  | d :: rest => if c = d then some rest else none
  | [] => none

/-- The number of days of a month. -/
def monthLength (year month : Nat) : Nat :=
  match month with
  | 2 => if year % 4 = 0 ∧ (year % 100 ≠ 0 ∨ year % 400 = 0) then 29 else 28
  | 4 | 6 | 9 | 11 => 30
  | _ => 31

/-- What follows a date. -/
def scanDate (cs : List Char) : Option (List Char) := do
  let (year, cs) ← scanCount 4 cs
  let (month, cs) ← scanCount 2 (← expect '-' cs)
  let (day, cs) ← scanCount 2 (← expect '-' cs)
  if 1 ≤ month ∧ month ≤ 12 ∧ 1 ≤ day ∧ day ≤ monthLength year month then some cs else none

/-- What follows hours and minutes. -/
def scanClock (cs : List Char) : Option (List Char) := do
  let (hour, cs) ← scanCount 2 cs
  let (minute, cs) ← scanCount 2 (← expect ':' cs)
  if hour ≤ 23 ∧ minute ≤ 59 then some cs else none

/-- What follows a time of day. -/
def scanTime (cs : List Char) : Option (List Char) := do
  let (second, cs) ← scanCount 2 (← expect ':' (← scanClock cs))
  if second ≤ 60 then
    match cs with
    | '.' :: c :: rest => if isDigit c then some (rest.dropWhile isDigit) else some cs
    | _ => some cs
  else none

/-- What follows the distance from universal time. -/
def scanOffset : List Char → Option (List Char)
  | c :: rest =>
    if c = 'Z' ∨ c = 'z' then some rest
    else if c = '+' ∨ c = '-' then scanClock rest
    else none
  | [] => none

/-- What follows a time of day and its offset, behind the mark between it and a date. -/
def scanTimeOfDate : List Char → Option (List Char)
  | c :: rest =>
    if c = 'T' ∨ c = 't' ∨ c = ' ' then do
      let rest ← scanTime rest
      return (scanOffset rest).getD rest
    else none
  | [] => none

/-- What follows a date, a date and time, or a time. -/
def scanMoment (cs : List Char) : Option (List Char) :=
  match scanDate cs with
  | some rest => some ((scanTimeOfDate rest).getD rest)
  | none => scanTime cs

/-- The characters before `rest`. -/
def before (rest cs : List Char) : List Char :=
  cs.take (cs.length - rest.length)

/-- A boolean, a number, a date or a time. -/
def scanScalar (cs : List Char) : Option (Node × List Char) :=
  match cs with
  | 't' :: 'r' :: 'u' :: 'e' :: rest => some (.boolean true, rest)
  | 'f' :: 'a' :: 'l' :: 's' :: 'e' :: rest => some (.boolean false, rest)
  | _ =>
    match scanMoment cs with
    | some rest => some (.moment (before rest cs), rest)
    | none =>
      match (scanDecimal cs).or (scanSpecial cs) with
      | some rest => some (.decimal (before rest cs), rest)
      | none => (scanInteger cs).map fun p => (.integer p.1, p.2)

end CrossSwap.Toml
