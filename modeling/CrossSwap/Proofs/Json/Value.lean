import CrossSwap.Json.Record
import CrossSwap.Proofs.Json.Text

/-!
# Values that are written can be read

A value without numbers, each text of which writes a string, is read back from what is written for
it, whatever follows.  The bound on the nesting is no hindrance: there is more room than characters.
-/

namespace CrossSwap.Json

/-- The value has no number, and each of its texts writes a string. -/
inductive Value.Textual : Value → Prop
  | null : Textual .null
  | boolean (b : Bool) : Textual (.boolean b)
  | text (s : String) : Textual (.text (some s))
  | list {items : List Value} (h : ∀ v ∈ items, v.Textual) : Textual (.list items)
  | object {fields : List (String × Value)} (h : ∀ f ∈ fields, f.2.Textual) :
      Textual (.ofFields fields)

/-- What is written for the value is read as it, with more room than characters. -/
def Value.Reads (v : Value) : Prop :=
  ∀ (k : Nat) (rest : List Char), v.write.length ≤ k →
    scanValue (k + 1) (v.write ++ rest) = some (v, rest)

/-! ## What is written -/

/-- The characters that textual values start with. -/
def openers : List Char :=
  ['n', 't', 'f', '"', '[', '\x7b']

variable {k : Nat} {c : Char} {v : Value}

theorem writeText_append (s : String) (cs : List Char) :
    writeText s ++ cs = '"' :: (s.toList.flatMap writeChar ++ '"' :: cs) := by
  rw [writeText, List.append_assoc, List.cons_append, List.singleton_append]

theorem writeItems_cons_cons (v w : Value) (vs : List Value) :
    writeItems (v :: w :: vs) = v.write ++ ',' :: writeItems (w :: vs) := by
  rw [writeItems]
  simp

/-- What is written between the braces of an object. -/
def writeFields (fields : List (String × Value)) : List Char :=
  writeMembers (fields.map fun f => (some f.1, f.2))

theorem write_ofFields (fields : List (String × Value)) :
    (Value.ofFields fields).write = '\x7b' :: (writeFields fields ++ ['\x7d']) := by
  rw [Value.ofFields, Value.write]
  rfl

theorem writeFields_singleton (f : String × Value) :
    writeFields [f] = writeText f.1 ++ ':' :: f.2.write := by
  rw [writeFields, List.map_singleton, writeMembers, Option.getD_some]

theorem writeFields_cons_cons (f g : String × Value) (fs : List (String × Value)) :
    writeFields (f :: g :: fs) =
      writeText f.1 ++ ':' :: (f.2.write ++ ',' :: writeFields (g :: fs)) := by
  rw [writeFields, List.map_cons, List.map_cons, writeMembers, Option.getD_some, List.append_assoc,
    List.cons_append]
  · rfl
  · simp

theorem Value.Textual.exists_write_eq_cons (h : v.Textual) :
    ∃ c cs, v.write = c :: cs ∧ c ∈ openers := by
  cases h with
  | null => exact ⟨'n', _, rfl, by decide⟩
  | boolean b =>
      cases b with
      | true => exact ⟨'t', _, rfl, by decide⟩
      | false => exact ⟨'f', _, rfl, by decide⟩
  | text s => exact ⟨'"', _, by rw [Value.write]; rfl, by decide⟩
  | list _ => exact ⟨'[', _, by rw [Value.write]; rfl, by decide⟩
  | object _ => exact ⟨'\x7b', _, write_ofFields _, by decide⟩

theorem exists_writeItems_eq_cons (h : v.Textual) (vs : List Value) :
    ∃ c cs, writeItems (v :: vs) = c :: cs ∧ c ∈ openers := by
  obtain ⟨c, cs, hwrite, hc⟩ := h.exists_write_eq_cons
  cases vs with
  | nil => exact ⟨c, cs, by rw [writeItems, hwrite], hc⟩
  | cons w vs => exact ⟨c, _, by rw [writeItems_cons_cons, hwrite]; rfl, hc⟩

theorem exists_writeFields_eq_cons (f : String × Value) (fs : List (String × Value)) :
    ∃ cs, writeFields (f :: fs) = '"' :: cs := by
  cases fs with
  | nil => exact ⟨_, by rw [writeFields_singleton, writeText_append]⟩
  | cons g fs => exact ⟨_, by rw [writeFields_cons_cons, writeText_append]⟩

/-! ## One step of reading -/

theorem scanValue_list_cons (h : c ∈ openers) (cs : List Char) :
    scanValue (k + 1) ('[' :: c :: cs) =
      (scanItems k (c :: cs)).map fun p => (.list p.1, p.2) := by
  simp only [openers, List.mem_cons, List.not_mem_nil, or_false] at h
  rcases h with rfl | rfl | rfl | rfl | rfl | rfl
  all_goals rfl

theorem scanValue_object_cons (cs : List Char) :
    scanValue (k + 1) ('\x7b' :: '"' :: cs) =
      (scanMembers k ('"' :: cs)).map fun p => (.object p.1, p.2) :=
  rfl

theorem scanItems_last (h : v.Reads) (hk : v.write.length ≤ k) (rest : List Char) :
    scanItems (k + 2) (v.write ++ ']' :: rest) = some ([v], rest) := by
  rw [scanItems, h k _ hk]
  rfl

theorem scanItems_cons (h : v.Reads) (hk : v.write.length ≤ k) (cs : List Char) :
    scanItems (k + 2) (v.write ++ ',' :: cs) =
      (scanItems (k + 1) cs).map fun p => (v :: p.1, p.2) := by
  rw [scanItems, h k _ hk]
  change (scanItems (k + 1) cs).bind _ = _
  cases scanItems (k + 1) cs with
  | none => rfl
  | some p => rfl

theorem scanMembers_last (h : v.Reads) (hk : v.write.length ≤ k) (key : String)
    (rest : List Char) :
    scanMembers (k + 2) (writeText key ++ ':' :: (v.write ++ '\x7d' :: rest)) =
      some ([(some key, v)], rest) := by
  rw [writeText_append, scanMembers]
  change (scanString (key.toList.flatMap writeChar ++ '"' :: _)).bind _ = _
  rw [scanString_writeChar]
  change (scanValue (k + 1) (v.write ++ '\x7d' :: rest)).bind _ = _
  rw [h k _ hk]
  rfl

theorem scanMembers_cons (h : v.Reads) (hk : v.write.length ≤ k) (key : String) (cs : List Char) :
    scanMembers (k + 2) (writeText key ++ ':' :: (v.write ++ ',' :: cs)) =
      (scanMembers (k + 1) cs).map fun p => ((some key, v) :: p.1, p.2) := by
  rw [writeText_append, scanMembers]
  change (scanString (key.toList.flatMap writeChar ++ '"' :: _)).bind _ = _
  rw [scanString_writeChar]
  change (scanValue (k + 1) (v.write ++ ',' :: cs)).bind _ = _
  rw [h k _ hk]
  change (scanMembers (k + 1) cs).bind _ = _
  cases scanMembers (k + 1) cs with
  | none => rfl
  | some p => rfl

/-! ## The whole value -/

theorem scanItems_write {vs : List Value} (h : v.Reads) (hvs : ∀ w ∈ vs, w.Reads) :
    ∀ k, (writeItems (v :: vs)).length ≤ k → ∀ rest,
      scanItems (k + 2) (writeItems (v :: vs) ++ ']' :: rest) = some (v :: vs, rest) := by
  induction vs generalizing v with
  | nil =>
      intro k hk rest
      rw [writeItems] at hk ⊢
      exact scanItems_last h hk rest
  | cons w vs ih =>
      obtain ⟨hw, hvs⟩ := List.forall_mem_cons.mp hvs
      intro k hk rest
      rw [writeItems_cons_cons, List.length_append, List.length_cons] at hk
      rw [writeItems_cons_cons, List.append_assoc, List.cons_append, scanItems_cons h (by omega)]
      -- The comma pays for the step.
      obtain ⟨k, rfl⟩ : ∃ n, k = n + 1 := Nat.exists_eq_add_of_le' (by omega)
      rw [ih hw hvs k (by omega)]
      rfl

theorem scanMembers_write {f : String × Value} {fs : List (String × Value)} (h : f.2.Reads)
    (hfs : ∀ g ∈ fs, g.2.Reads) :
    ∀ k, (writeFields (f :: fs)).length ≤ k → ∀ rest,
      scanMembers (k + 2) (writeFields (f :: fs) ++ '\x7d' :: rest) =
        some ((f :: fs).map fun g => (some g.1, g.2), rest) := by
  induction fs generalizing f with
  | nil =>
      intro k hk rest
      rw [writeFields_singleton, List.length_append, List.length_cons] at hk
      rw [writeFields_singleton, List.append_assoc, List.cons_append]
      exact scanMembers_last h (by omega) f.1 rest
  | cons g fs ih =>
      obtain ⟨hg, hfs⟩ := List.forall_mem_cons.mp hfs
      intro k hk rest
      rw [writeFields_cons_cons, List.length_append, List.length_cons, List.length_append,
        List.length_cons] at hk
      rw [writeFields_cons_cons, List.append_assoc, List.cons_append, List.append_assoc,
        List.cons_append, scanMembers_cons h (by omega)]
      obtain ⟨k, rfl⟩ : ∃ n, k = n + 1 := Nat.exists_eq_add_of_le' (by omega)
      rw [ih hg hfs k (by omega)]
      rfl

theorem Value.Textual.reads (h : v.Textual) : v.Reads := by
  induction h with
  | null => exact fun k rest _ => rfl
  | boolean b =>
      cases b with
      | true => exact fun k rest _ => rfl
      | false => exact fun k rest _ => rfl
  | text s =>
      intro k rest _
      rw [write, Option.getD_some, writeText_append]
      change (scanString (s.toList.flatMap writeChar ++ '"' :: rest)).map _ = _
      rw [scanString_writeChar]
      rfl
  | @list items htextual ih =>
      intro k rest hk
      rw [write, List.length_append, List.length_cons, List.length_singleton] at hk
      rw [write, List.append_assoc, List.cons_append, List.singleton_append]
      cases items with
      | nil => rfl
      | cons v vs =>
          obtain ⟨hv, hvs⟩ := List.forall_mem_cons.mp ih
          obtain ⟨c, cs, hwrite, hc⟩ :=
            exists_writeItems_eq_cons (htextual v List.mem_cons_self) vs
          obtain ⟨k, rfl⟩ : ∃ n, k = n + 2 := Nat.exists_eq_add_of_le' (by omega)
          have hread := scanItems_write hv hvs k (by omega) rest
          rw [hwrite, List.cons_append] at hread ⊢
          rw [scanValue_list_cons hc, hread]
          rfl
  | @object fields _ ih =>
      intro k rest hk
      rw [write_ofFields, List.length_cons, List.length_append, List.length_singleton] at hk
      rw [write_ofFields, List.cons_append, List.append_assoc, List.singleton_append]
      cases fields with
      | nil => rfl
      | cons f fs =>
          obtain ⟨hf, hfs⟩ := List.forall_mem_cons.mp ih
          obtain ⟨cs, hwrite⟩ := exists_writeFields_eq_cons f fs
          obtain ⟨k, rfl⟩ : ∃ n, k = n + 2 := Nat.exists_eq_add_of_le' (by omega)
          have hread := scanMembers_write hf hfs k (by omega) rest
          rw [hwrite, List.cons_append] at hread ⊢
          rw [scanValue_object_cons, hread]
          rfl

/-- A value that is written is read back. -/
theorem parse_render (h : v.Textual) : parse v.render = some v := by
  have hread := h.reads (2 * v.write.length + 1) [] (by omega)
  rw [List.append_nil] at hread
  rw [parse, Value.render, String.toList_ofList, hread]
  rfl

end CrossSwap.Json
