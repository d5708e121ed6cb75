/-!
# Faults of the list encoding

Why an item cannot be read.  The names are those that the messages show.
-/

namespace CrossSwap.Rlp

inductive Fault where
  /-- The bytes end before the item does. -/
  | tooShort
  /-- An integer has more bytes than its width allows. -/
  | tooBig
  /-- Data stands where a list is asked for. -/
  | expectedList
  /-- A list stands where data is asked for. -/
  | expectedData
  /-- A list has another number of items. -/
  | listLength
  /-- The bytes of a length start with zero. -/
  | lengthLeadingZero
  /-- A longer form is used than the value needs. -/
  | indirection
  /-- Bytes follow the item. -/
  | inconsistentLength
  /-- The item is well formed, and its content is refused. -/
  | custom (reason : String)
  deriving DecidableEq, Repr

def Fault.message : Fault → String
  | .tooShort => "RlpIsTooShort"
  | .tooBig => "RlpIsTooBig"
  | .expectedList => "RlpExpectedToBeList"
  | .expectedData => "RlpExpectedToBeData"
  | .listLength => "RlpIncorrectListLen"
  | .lengthLeadingZero => "RlpDataLenWithZeroPrefix"
  | .indirection => "RlpInvalidIndirection"
  | .inconsistentLength => "RlpInconsistentLengthAndData"
  | .custom reason => s!"Custom(\"{reason}\")"

end CrossSwap.Rlp
