import CrossSwap.Bytes

/-!
# Text as bytes

The UTF-8 bytes of a text, and the text of a byte string.  A byte string that is no text is refused
at the first character that cannot be completed: `scan` walks the bytes once and keeps the ranges of
the continuation bytes that the current character still owes.
-/

namespace CrossSwap

/-- Where and how a byte string stops being UTF-8. -/
inductive Utf8Fault where
  /-- The `length` bytes from `index` on start no character. -/
  | invalid (length index : Nat)
  /-- The character that starts at `index` is cut off by the end. -/
  | incomplete (index : Nat)
  deriving DecidableEq, Repr

def Utf8Fault.message : Utf8Fault → String
  | .invalid length index => s!"invalid utf-8 sequence of {length} bytes from index {index}"
  | .incomplete index => s!"incomplete utf-8 byte sequence from index {index}"

namespace Text

/-- The UTF-8 bytes of a text. -/
def toBytes (s : String) : Bytes :=
  s.toByteArray.data.toList

/-- The ranges of the bytes that must follow a first byte, if a character can start with it. -/
def follow (lead : Nat) : Option (List (Nat × Nat)) :=
  if lead < 0x80 then some []
  else if lead < 0xC2 then none
  else if lead < 0xE0 then some [(0x80, 0xBF)]
  else if lead = 0xE0 then some [(0xA0, 0xBF), (0x80, 0xBF)]
  else if lead = 0xED then some [(0x80, 0x9F), (0x80, 0xBF)]
  else if lead < 0xF0 then some [(0x80, 0xBF), (0x80, 0xBF)]
  else if lead = 0xF0 then some [(0x90, 0xBF), (0x80, 0xBF), (0x80, 0xBF)]
  else if lead < 0xF4 then some [(0x80, 0xBF), (0x80, 0xBF), (0x80, 0xBF)]
  else if lead = 0xF4 then some [(0x80, 0x8F), (0x80, 0xBF), (0x80, 0xBF)]
  else none

/-- The first fault from position `index` on, when the character that began at `start` still owes
bytes in the ranges `owed`. -/
def scan (index start : Nat) (owed : List (Nat × Nat)) : Bytes → Option Utf8Fault
  | [] => if owed.isEmpty then none else some (.incomplete start)
  | b :: rest =>
    match owed with
    | [] =>
      match follow b.toNat with
      | none => some (.invalid 1 index)
      | some more => scan (index + 1) index more rest
    | (low, high) :: more =>
      if low ≤ b.toNat ∧ b.toNat ≤ high then scan (index + 1) start more rest
      else some (.invalid (index - start) start)

/-- The text whose UTF-8 bytes are given. -/
def ofBytes (bs : Bytes) : Except Utf8Fault String :=
  if h : ByteArray.IsValidUTF8 ⟨bs.toArray⟩ then .ok (String.ofByteArray ⟨bs.toArray⟩ h)
  else .error ((scan 0 0 [] bs).getD (.incomplete 0))

def ofBytes? (bs : Bytes) : Option String :=
  (ofBytes bs).toOption

@[simp] theorem ofBytes_toBytes (s : String) : ofBytes (toBytes s) = .ok s := by
  have h : (⟨(toBytes s).toArray⟩ : ByteArray) = s.toByteArray := by simp [toBytes]
  have hv : ByteArray.IsValidUTF8 ⟨(toBytes s).toArray⟩ := h ▸ s.isValidUTF8
  rw [ofBytes, dif_pos hv]
  congr 1

theorem toBytes_of_ofBytes {bs : Bytes} {s : String} (h : ofBytes bs = .ok s) :
    toBytes s = bs := by
  rw [ofBytes] at h
  split at h
  · cases h; simp [toBytes]
  · cases h

theorem toBytes_injective {s t : String} (h : toBytes s = toBytes t) : s = t := by
  have := ofBytes_toBytes s
  rw [h, ofBytes_toBytes] at this
  exact (Except.ok.inj this).symm

end Text

end CrossSwap
