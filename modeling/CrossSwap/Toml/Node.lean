/-!
# TOML documents as trees

The entries of a table keep their order.  What may still be added to a table depends on how it came
to be: a header opens a table that was only implied by longer headers, and dotted keys extend the
tables that dotted keys made.
-/

namespace CrossSwap.Toml

/-- How a table came to be. -/
inductive Origin where
  /-- It stands on the way to a table with a header. -/
  | implied
  /-- It stands on the way to the value of a dotted key. -/
  | dotted
  /-- It has a header of its own. -/
  | headed
  /-- It was written in braces, as a value. -/
  | inline
  deriving DecidableEq, Repr

inductive Node where
  | text (s : String)
  | integer (n : Int)
  | boolean (b : Bool)
  /-- A number with a fraction or an exponent, by its text. -/
  | decimal (literal : List Char)
  /-- A date, a time or both, by its text. -/
  | moment (literal : List Char)
  | array (items : List Node)
  | table (origin : Origin) (entries : List (String × Node))
  /-- Tables under one key, of which the last one is open. -/
  | tables (earlier : List (List (String × Node))) (last : List (String × Node))
  deriving Repr

abbrev Entries := List (String × Node)

namespace Entries

/-- Replaces what stands under a key, or adds it at the end. -/
def adjust (key : String) (f : Option Node → Option Node) : Entries → Option Entries
  | [] => (f none).map fun v => [(key, v)]
  | (k, v) :: rest =>
    if k = key then (f (some v)).map fun v => (k, v) :: rest
    else (adjust key f rest).map ((k, v) :: ·)

/-- Adds a value under a dotted key.  Tables without dots on the way may be passed through, but the
value itself goes only where dotted keys may add. -/
def put : List String → Node → Entries → Option Entries
  | [], _, _ => none
  | [key], v, entries =>
    adjust key (fun
      | none => some v
      | some _ => none) entries
  | key :: next :: path, v, entries =>
    adjust key (fun
      | none => (put (next :: path) v []).map (.table .dotted)
      | some (.table .dotted inner) => (put (next :: path) v inner).map (.table .dotted)
      | some (.table .implied inner) =>
        if path.isEmpty then none else (put (next :: path) v inner).map (.table .implied)
      | some (.tables earlier last) =>
        if path.isEmpty then none else (put (next :: path) v last).map (.tables earlier)
      | some _ => none) entries

/-- Changes the table that a header's path leads to.  Missing tables are implied, and of tables under
one key the last is meant. -/
def within : List String → (Entries → Option Entries) → Entries → Option Entries
  | [], f, entries => f entries
  | key :: path, f, entries =>
    adjust key (fun
      | none => (within path f []).map (.table .implied)
      | some (.table .inline _) => none
      | some (.table origin inner) => (within path f inner).map (.table origin)
      | some (.tables earlier last) => (within path f last).map (.tables earlier)
      | some _ => none) entries

/-- Opens the table of a header. -/
def openTable (key : String) : Entries → Option Entries :=
  adjust key fun
    | none => some (.table .headed [])
    | some (.table .implied inner) => some (.table .headed inner)
    | some _ => none

/-- Opens one more of the tables under a key. -/
def openElement (key : String) : Entries → Option Entries :=
  adjust key fun
    | none => some (.tables [] [])
    | some (.tables earlier last) => some (.tables (earlier ++ [last]) [])
    | some _ => none

end Entries

end CrossSwap.Toml
