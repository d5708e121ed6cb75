import CrossSwap.Toml.Scalar

/-!
# Reading TOML

A document is a list of lines that add entries, open tables, or open one more of the tables under a
key.  The lines are read first and put together after.  Arrays and tables in braces nest to a fixed
depth, and keys have a fixed number of parts at most.
-/

namespace CrossSwap.Toml

/-- The most parts of a key, and the most levels of arrays and tables in braces. -/
def maxDepth : Nat := 79

/-- The items of an array up to its end. -/
def scanItems (value : List Char → Option (Node × List Char)) :
    Nat → List Char → Option (List Node × List Char)
  | 0, _ => none
  | k + 1, cs =>
    match skipSpace false cs with
    | ']' :: rest => some ([], rest)
    | cs => do
      let (v, rest) ← value cs
      match skipSpace false rest with
      | ']' :: rest => return ([v], rest)
      | ',' :: rest =>
        let (vs, rest) ← scanItems value k rest
        return (v :: vs, rest)
      | _ => none

/-- A key and its value. -/
def scanEntry (value : List Char → Option (Node × List Char)) (cs : List Char) :
    Option ((List String × Node) × List Char) := do
  let (path, rest) ← scanKey maxDepth cs
  let (v, rest) ← value (skipBlanks (← expect '=' rest))
  return ((path, v), rest)

/-- The entries of a table in braces up to its end. -/
def scanEntries (value : List Char → Option (Node × List Char)) :
    Nat → List Char → Option (List (List String × Node) × List Char)
  | 0, _ => none
  | k + 1, cs => do
    let (entry, rest) ← scanEntry value cs
    match skipBlanks rest with
    | '\x7d' :: rest => return ([entry], rest)
    | ',' :: rest =>
      let (entries, rest) ← scanEntries value k rest
      return (entry :: entries, rest)
    | _ => none

/-- The table with the given entries. -/
def Entries.ofList (entries : List (List String × Node)) : Option Entries :=
  entries.foldlM (fun table e => Entries.put e.1 e.2 table) []

/-- A value, with at most `depth` levels of arrays and tables in it. -/
def scanValue (depth : Nat) (cs : List Char) : Option (Node × List Char) :=
  match cs with
  | '"' :: _ => (scanQuoted cs).map fun p => (.text (String.ofList p.1), p.2)
  | '\x27' :: _ => (scanQuoted cs).map fun p => (.text (String.ofList p.1), p.2)
  | '[' :: rest =>
    match depth with
    | 0 => none
    | depth + 1 =>
      (scanItems (scanValue depth) cs.length rest).map fun p => (.array p.1, p.2)
  | '\x7b' :: rest =>
    match depth with
    | 0 => none
    | depth + 1 =>
      match skipBlanks rest with
      | '\x7d' :: rest => some (.table .inline [], rest)
      | rest => do
        let (entries, rest) ← scanEntries (scanValue depth) cs.length rest
        return (.table .inline (← Entries.ofList entries), rest)
  | _ => scanScalar cs

/-- What a line of a document does. -/
inductive Line where
  | entry (path : List String) (value : Node)
  | openTable (path : List String)
  | openElement (path : List String)
  deriving Repr

def scanLine : List Char → Option (Line × List Char)
  | '[' :: '[' :: cs => do
    let (path, rest) ← scanKey maxDepth cs
    return (.openElement path, ← expect ']' (← expect ']' rest))
  | '[' :: cs => do
    let (path, rest) ← scanKey maxDepth cs
    return (.openTable path, ← expect ']' rest)
  | cs => do
    let ((path, v), rest) ← scanEntry (scanValue maxDepth) cs
    return (.entry path v, rest)

/-- The lines of a text, of which there are fewer than its characters. -/
def scanLines : Nat → List Char → Option (List Line)
  | 0, _ => none
  | k + 1, cs =>
    match skipSpace false cs with
    | [] => some []
    | cs => do
      let (line, rest) ← scanLine cs
      let lines ← scanLines k (← endLine rest)
      return line :: lines

/-- A document while it is put together. -/
structure Document where
  root : Entries
  /-- The path of the table that entries go to. -/
  current : List String

namespace Document

/-- Opens a table at a path and makes it the current one. -/
def openAt (d : Document) (path : List String) (how : String → Entries → Option Entries) :
    Option Document := do
  let key ← path.getLast?
  return ⟨← Entries.within path.dropLast (how key) d.root, path⟩

/-- The document with one more line. -/
def add (d : Document) : Line → Option Document
  | .entry path v => do
    return { d with root := ← Entries.within d.current (Entries.put path v) d.root }
  | .openTable path => d.openAt path Entries.openTable
  | .openElement path => d.openAt path Entries.openElement

end Document

/-- The entries that a text writes.  It may start with a byte order mark. -/
def parse (s : String) : Option Entries := do
  let cs := match s.toList with
    | '\uFEFF' :: rest => rest
    | cs => cs
  let lines ← scanLines (cs.length + 1) cs
  let d ← lines.foldlM Document.add ⟨[], []⟩
  return d.root

end CrossSwap.Toml
