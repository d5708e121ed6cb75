import CrossSwap.Bytes

/-!
# The characters of TOML

Blanks, comments and the ends of lines, the four kinds of quoted text, and the names that keys are
made of.
-/

namespace CrossSwap.Toml

def isBlank (c : Char) : Bool :=
  c == ' ' || c == '\t'

/-- Whether a character may stand in a comment or between quotes. -/
def isPlain (c : Char) : Bool :=
  c == '\t' || (0x20 ≤ c.toNat && c.toNat != 0x7F)

def quote : Char := '"'

def apostrophe : Char := '\x27'

def skipBlanks (cs : List Char) : List Char :=
  cs.dropWhile isBlank

/-- What follows the end of a line, if it comes next. -/
def newline? : List Char → Option (List Char)
  | '\n' :: rest => some rest
  | '\r' :: '\n' :: rest => some rest
  | _ => none

/-- Skips blanks, comments and ends of lines. -/
def skipSpace (inComment : Bool) : List Char → List Char
  | [] => []
  | '\n' :: rest => skipSpace false rest
  | '\r' :: '\n' :: rest => skipSpace false rest
  | c :: rest =>
    if inComment then
      if isPlain c then skipSpace true rest else c :: rest
    else if isBlank c then skipSpace false rest
    else if c = '#' then skipSpace true rest
    else c :: rest

/-- What follows a line of which only blanks and a comment are left. -/
def endLine (cs : List Char) : Option (List Char) :=
  let cs := match skipBlanks cs with
    | '#' :: rest => rest.dropWhile isPlain
    | cs => cs
  if cs.isEmpty then some [] else newline? cs

/-- The character that an escape of one letter names. -/
def escaped? : Char → Option Char
  | 'b' => some '\x08'
  | 'f' => some '\x0c'
  | 'n' => some '\n'
  | 'r' => some '\r'
  | 't' => some '\t'
  | '"' => some '"'
  | '\\' => some '\\'
  | _ => none

/-- The character whose number hexadecimal digits write. -/
def scalar? (digits : List Char) : Option Char := do
  let n := Numeral.value 16 (← digits.mapM hexValue?)
  if n < 0xD800 ∨ 0xE000 ≤ n ∧ n < 0x110000 then some (Char.ofNat n) else none

/-- A text up to its closing quote, and what follows. -/
def scanBasic : List Char → Option (List Char × List Char)
  | [] => none
  | '"' :: rest => some ([], rest)
  | '\\' :: 'u' :: a :: b :: c :: d :: rest => do
    let x ← scalar? [a, b, c, d]
    let (text, rest) ← scanBasic rest
    return (x :: text, rest)
  | '\\' :: 'U' :: a :: b :: c :: d :: e :: f :: g :: h :: rest => do
    let x ← scalar? [a, b, c, d, e, f, g, h]
    let (text, rest) ← scanBasic rest
    return (x :: text, rest)
  | '\\' :: e :: rest => do
    let x ← escaped? e
    let (text, rest) ← scanBasic rest
    return (x :: text, rest)
  | c :: rest =>
    if isPlain c ∧ c ≠ '\\' then do
      let (text, rest) ← scanBasic rest
      return (c :: text, rest)
    else none

/-- Up to two quotes may stand right before the three that close a text. -/
def closing (q : Char) : List Char → List Char × List Char
  | c :: d :: rest =>
    if c = q then
      if d = q then ([q, q], rest) else ([q], d :: rest)
    else ([], c :: d :: rest)
  | [c] => if c = q then ([q], []) else ([], [c])
  | [] => ([], [])

/-- A text over several lines up to its closing quotes.  A backslash at the end of a line `folds` it:
the blanks and ends of lines that follow are left out. -/
def scanLongBasic (folds : Bool) : List Char → Option (List Char × List Char)
  | [] => none
  | '"' :: '"' :: '"' :: rest => some (closing quote rest)
  | '\\' :: 'u' :: a :: b :: c :: d :: rest => do
    let x ← scalar? [a, b, c, d]
    let (text, rest) ← scanLongBasic false rest
    return (x :: text, rest)
  | '\\' :: 'U' :: a :: b :: c :: d :: e :: f :: g :: h :: rest => do
    let x ← scalar? [a, b, c, d, e, f, g, h]
    let (text, rest) ← scanLongBasic false rest
    return (x :: text, rest)
  | '\\' :: e :: rest =>
    if (newline? (skipBlanks (e :: rest))).isSome then scanLongBasic true rest
    else do
      let x ← escaped? e
      let (text, rest) ← scanLongBasic false rest
      return (x :: text, rest)
  | '\r' :: '\n' :: rest => do
    let (text, rest) ← scanLongBasic folds rest
    return (if folds then text else '\n' :: text, rest)
  | c :: rest =>
    if folds ∧ (isBlank c ∨ c = '\n') then scanLongBasic true rest
    else if (isPlain c ∨ c = '\n') ∧ c ≠ '\\' then do
      let (text, rest) ← scanLongBasic false rest
      return (c :: text, rest)
    else none

/-- A text without escapes up to its closing apostrophe, and what follows. -/
def scanLiteral (cs : List Char) : Option (List Char × List Char) :=
  let inside := fun c => isPlain c && c != apostrophe
  match cs.dropWhile inside with
  | c :: rest => if c = apostrophe then some (cs.takeWhile inside, rest) else none
  | [] => none

/-- A text without escapes over several lines up to its closing apostrophes. -/
def scanLongLiteral : List Char → Option (List Char × List Char)
  | [] => none
  | '\x27' :: '\x27' :: '\x27' :: rest => some (closing apostrophe rest)
  | '\r' :: '\n' :: rest => do
    let (text, rest) ← scanLongLiteral rest
    return ('\n' :: text, rest)
  | c :: rest =>
    if isPlain c ∨ c = '\n' then do
      let (text, rest) ← scanLongLiteral rest
      return (c :: text, rest)
    else none

/-- Skips the end of a line that follows opening quotes. -/
def skipNewline (cs : List Char) : List Char :=
  (newline? cs).getD cs

/-- A quoted text of any kind. -/
def scanQuoted : List Char → Option (List Char × List Char)
  | '"' :: '"' :: '"' :: rest => scanLongBasic false (skipNewline rest)
  | '"' :: rest => scanBasic rest
  | '\x27' :: '\x27' :: '\x27' :: rest => scanLongLiteral (skipNewline rest)
  | '\x27' :: rest => scanLiteral rest
  | _ => none

def isNameChar (c : Char) : Bool :=
  ('a' ≤ c && c ≤ 'z') || ('A' ≤ c && c ≤ 'Z') || ('0' ≤ c && c ≤ '9') || c == '-' || c == '_'

/-- One part of a key: a bare name, or a text quoted on one line. -/
def scanName : List Char → Option (String × List Char)
  | '"' :: rest => (scanBasic rest).map fun p => (String.ofList p.1, p.2)
  | '\x27' :: rest => (scanLiteral rest).map fun p => (String.ofList p.1, p.2)
  | cs =>
    let name := cs.takeWhile isNameChar
    if name.isEmpty then none else some (String.ofList name, cs.dropWhile isNameChar)

/-- The parts of a key, of which there are at most `limit`, with dots between them. -/
def scanKey (limit : Nat) (cs : List Char) : Option (List String × List Char) :=
  match limit with
  | 0 => none
  | limit + 1 => do
    let (name, rest) ← scanName (skipBlanks cs)
    match skipBlanks rest with
    | '.' :: rest => do
      let (names, rest) ← scanKey limit rest
      return (name :: names, rest)
    | rest => some ([name], rest)

end CrossSwap.Toml
