import CrossSwap.Json.Text
import CrossSwap.Json.Value

/-!
# Reading JSON

Each function takes the characters at hand and gives what it read and what is left.  The nesting is
bounded by the number of characters.
-/

namespace CrossSwap.Json

def isBlank (c : Char) : Bool :=
  c == ' ' || c == '\n' || c == '\t' || c == '\r'

def skipBlanks (cs : List Char) : List Char :=
  cs.dropWhile isBlank

def isDigit (c : Char) : Bool :=
  '0' ≤ c && c ≤ '9'

/-- The digits in front, of which there must be one, and what is left. -/
def someDigits (cs : List Char) : Option (List Char × List Char) :=
  let digits := cs.takeWhile isDigit
  if digits.isEmpty then none else some (digits, cs.dropWhile isDigit)

/-- The digits of an integer without a leading zero. -/
def scanInteger : List Char → Option (List Char × List Char)
  | '0' :: rest => if rest.head?.any isDigit then none else some (['0'], rest)
  | cs => someDigits cs

/-- The digits behind a point, with the point; none if there is no point. -/
def scanFraction : List Char → Option (List Char × List Char)
  | '.' :: rest => do
    let (digits, rest) ← someDigits rest
    return ('.' :: digits, rest)
  | cs => some ([], cs)

/-- The exponent with its letter; none if there is no exponent. -/
def scanExponent : List Char → Option (List Char × List Char)
  | e :: rest =>
    if e = 'e' ∨ e = 'E' then
      match rest with
      | sign :: more =>
        if sign = '+' ∨ sign = '-' then do
          let (digits, left) ← someDigits more
          return (e :: sign :: digits, left)
        else do
          let (digits, left) ← someDigits rest
          return (e :: digits, left)
      | [] => none
    else some ([], e :: rest)
  | [] => some ([], [])

/-- The text of a number. -/
def scanNumber (cs : List Char) : Option (List Char × List Char) := do
  let (sign, cs) := match cs with
    | '-' :: rest => (['-'], rest)
    | _ => ([], cs)
  let (integer, cs) ← scanInteger cs
  let (fraction, cs) ← scanFraction cs
  let (exponent, cs) ← scanExponent cs
  return (sign ++ integer ++ fraction ++ exponent, cs)

/-- A text between quotes, of which the first has been read. -/
def scanString (cs : List Char) : Option (Option String × List Char) := do
  let (pieces, rest) ← scanText cs
  return ((assemble pieces).map String.ofList, rest)

mutual

/-- A value, at most `k` levels deep. -/
def scanValue : Nat → List Char → Option (Value × List Char)
  | 0, _ => none
  | k + 1, cs =>
    match skipBlanks cs with
    | 'n' :: 'u' :: 'l' :: 'l' :: rest => some (.null, rest)
    | 't' :: 'r' :: 'u' :: 'e' :: rest => some (.boolean true, rest)
    | 'f' :: 'a' :: 'l' :: 's' :: 'e' :: rest => some (.boolean false, rest)
    | '"' :: rest => (scanString rest).map fun p => (.text p.1, p.2)
    | '[' :: rest =>
      match skipBlanks rest with
      | ']' :: rest => some (.list [], rest)
      | rest => (scanItems k rest).map fun p => (.list p.1, p.2)
    | '\x7b' :: rest =>
      match skipBlanks rest with
      | '\x7d' :: rest => some (.object [], rest)
      | rest => (scanMembers k rest).map fun p => (.object p.1, p.2)
    | rest => (scanNumber rest).map fun p => (.number p.1, p.2)

/-- The items of a list up to its end. -/
def scanItems : Nat → List Char → Option (List Value × List Char)
  | 0, _ => none
  | k + 1, cs => do
    let (v, rest) ← scanValue k cs
    match skipBlanks rest with
    | ']' :: rest => return ([v], rest)
    | ',' :: rest => do
      let (vs, rest) ← scanItems k rest
      return (v :: vs, rest)
    | _ => none

/-- The members of an object up to its end. -/
def scanMembers : Nat → List Char → Option (List (Option String × Value) × List Char)
  | 0, _ => none
  | k + 1, cs => do
    match skipBlanks cs with
    | '"' :: rest => do
      let (key, rest) ← scanString rest
      match skipBlanks rest with
      | ':' :: rest => do
        let (v, rest) ← scanValue k rest
        match skipBlanks rest with
        | '\x7d' :: rest => return ([(key, v)], rest)
        | ',' :: rest => do
          let (vs, rest) ← scanMembers k rest
          return ((key, v) :: vs, rest)
        | _ => none
      | _ => none
    | _ => none

end

/-- The value that a text writes, with nothing but blanks around it. -/
def parse (s : String) : Option Value := do
  let cs := s.toList
  let (v, rest) ← scanValue (2 * cs.length + 2) cs
  if (skipBlanks rest).isEmpty then some v else none

end CrossSwap.Json
