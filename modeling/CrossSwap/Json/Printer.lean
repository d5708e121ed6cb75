import CrossSwap.Json.Text
import CrossSwap.Json.Value

/-!
# Writing JSON

Values are written without blanks, and the members of an object in the order that they have.
-/

namespace CrossSwap.Json

mutual

def Value.write : Value → List Char
  | .null => "null".toList
  | .boolean true => "true".toList
  | .boolean false => "false".toList
  | .number digits => digits
  | .text content => writeText (content.getD "")
  | .list items => '[' :: writeItems items ++ [']']
  | .object members => '\x7b' :: writeMembers members ++ ['\x7d']

/-- Values with commas between them. -/
def writeItems : List Value → List Char
  | [] => []
  | [v] => v.write
  | v :: vs => v.write ++ ',' :: writeItems vs

/-- Keys and values with commas between them. -/
def writeMembers : List (Option String × Value) → List Char
  | [] => []
  | [(key, v)] => writeText (key.getD "") ++ ':' :: v.write
  | (key, v) :: ms => writeText (key.getD "") ++ ':' :: v.write ++ ',' :: writeMembers ms

end

def Value.render (v : Value) : String :=
  String.ofList v.write

end CrossSwap.Json
