/-!
# JSON values

A value keeps what a reader of records needs and no more: numbers by their text, the members of an
object in order and with repeated keys, and for each text the string that it writes.  The escapes of
a text can name halves of surrogate pairs that stand alone; such a text is well formed and writes no
string.
-/

namespace CrossSwap.Json

inductive Value where
  | null
  | boolean (b : Bool)
  | number (digits : List Char)
  | text (content : Option String)
  | list (items : List Value)
  | object (members : List (Option String × Value))
  deriving Repr

end CrossSwap.Json
