import CrossSwap.Json.Parser
import CrossSwap.Json.Printer

/-!
# Texts that are written can be read

Each character is written as itself, as an escape of one letter, or as an escape of four digits when
it is a control character without a letter.  The last names a unit below 32, so no two of them make
a pair.
-/

namespace CrossSwap.Json

/-- The piece that a character is read back as. -/
inductive Piece.Writes : Piece → Char → Prop
  | char (c : Char) : Writes (.char c) c
  | unit {c : Char} (h : c.toNat < 0x20) : Writes (.unit c.toNat) c

section Scan

variable {c e : Char} {n : Nat} (rest : List Char)

theorem hexValue?_hexDigit : ∀ n < 16, hexValue? (hexDigit n) = some n := by
  decide

theorem unit?_hexDigit (h : n < 256) :
    unit? '0' '0' (hexDigit (n / 16)) (hexDigit (n % 16)) = some n := by
  have hzero : hexValue? '0' = some 0 := by decide
  have hhigh : hexValue? (hexDigit (n / 16)) = some (n / 16) := hexValue?_hexDigit _ (by omega)
  have hlow : hexValue? (hexDigit (n % 16)) = some (n % 16) := hexValue?_hexDigit _ (by omega)
  rw [unit?, hzero, hhigh, hlow]
  change some (((0 * 16 + 0) * 16 + n / 16) * 16 + n % 16) = some n
  congr 1
  omega

theorem scanText_unit (h : n < 256) :
    scanText ('\\' :: 'u' :: '0' :: '0' :: hexDigit (n / 16) :: hexDigit (n % 16) :: rest) =
      (scanText rest).map fun q => (.unit n :: q.1, q.2) := by
  rw [scanText, unit?_hexDigit h]
  cases scanText rest with
  | none => rfl
  | some q => rfl

theorem scanText_escape (h : escaped? e = some c) :
    scanText ('\\' :: e :: rest) = (scanText rest).map fun q => (.char c :: q.1, q.2) := by
  rw [scanText, h]
  · cases scanText rest with
    | none => rfl
    | some q => rfl
  · rintro a b c' d rest' rfl
    cases h

theorem scanText_cons (hquote : c ≠ '"') (hescape : c ≠ '\\') (hcontrol : ¬ c.toNat < 0x20) :
    scanText (c :: rest) = (scanText rest).map fun q => (.char c :: q.1, q.2) := by
  have hchar : ¬ (c.toNat < 0x20 ∨ c = '\\') := by
    rintro (hlt | rfl)
    · exact hcontrol hlt
    · exact hescape rfl
  rw [scanText, if_neg hchar]
  · cases scanText rest with
    | none => rfl
    | some q => rfl
  · exact hquote
  · rintro a b c' d rest' rfl
    exact fun _ => hescape rfl
  · rintro e' rest' rfl
    exact fun _ => hescape rfl

end Scan

theorem scanText_writeChar (c : Char) :
    ∃ p : Piece, p.Writes c ∧
      ∀ rest, scanText (writeChar c ++ rest) = (scanText rest).map fun q => (p :: q.1, q.2) := by
  rw [writeChar.eq_def]
  split
  case h_8 hquote hescape _ _ _ _ _ =>
    split
    · rename_i hcontrol
      exact ⟨_, .unit hcontrol, fun rest => scanText_unit rest (by omega)⟩
    · rename_i hcontrol
      exact ⟨_, .char c, fun rest => scanText_cons rest hquote hescape hcontrol⟩
  all_goals exact ⟨_, .char _, fun rest => scanText_escape rest rfl⟩

theorem assemble_cons {p : Piece} {c : Char} (h : p.Writes c) (ps : List Piece) :
    assemble (p :: ps) = (assemble ps).map (c :: ·) := by
  cases h with
  | char c => rw [assemble]
  | unit h =>
      have hhigh : isHighSurrogate c.toNat = false := by
        rw [isHighSurrogate, Bool.and_eq_false_iff, decide_eq_false_iff_not]
        exact .inl (by omega)
      have hlow : isLowSurrogate c.toNat = false := by
        rw [isLowSurrogate, Bool.and_eq_false_iff, decide_eq_false_iff_not]
        exact .inl (by omega)
      -- A unit that follows is looked at for a pair first.
      cases ps with
      | nil => simp [assemble, hhigh, hlow, Char.ofNat_toNat]
      | cons p ps =>
          cases p with
          | char c' => simp [assemble, hhigh, hlow, Char.ofNat_toNat]
          | unit n => simp [assemble, hhigh, hlow, Char.ofNat_toNat]

theorem exists_scanText_flatMap_writeChar (cs rest : List Char) :
    ∃ ps, scanText (cs.flatMap writeChar ++ '"' :: rest) = some (ps, rest) ∧
      assemble ps = some cs := by
  induction cs with
  | nil => exact ⟨[], rfl, rfl⟩
  | cons c cs ih =>
      obtain ⟨ps, hscan, hassemble⟩ := ih
      obtain ⟨p, hp, hchar⟩ := scanText_writeChar c
      refine ⟨p :: ps, ?_, ?_⟩
      · rw [List.flatMap_cons, List.append_assoc, hchar, hscan]
        rfl
      · rw [assemble_cons hp, hassemble]
        rfl

theorem scanString_writeChar (s : String) (rest : List Char) :
    scanString (s.toList.flatMap writeChar ++ '"' :: rest) = some (some s, rest) := by
  obtain ⟨ps, hscan, hassemble⟩ := exists_scanText_flatMap_writeChar s.toList rest
  rw [scanString, hscan]
  change some ((assemble ps).map String.ofList, rest) = _
  rw [hassemble, Option.map_some, String.ofList_toList]

end CrossSwap.Json
