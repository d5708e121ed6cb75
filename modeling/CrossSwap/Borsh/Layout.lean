import CrossSwap.Borsh.Fault

/-!
# Binary layouts

A layout writes values of a type as bytes and reads them from the front of a byte string.  Its two
laws say that reading takes exactly what writing gives, in front of any rest: what is written is
read back, and what is read had been written so.  Integers are little-endian, and texts and byte
strings follow their length in four bytes.
-/

namespace CrossSwap.Borsh

structure Layout (α : Type) where
  write : α → Except Fault Bytes
  /-- The value that a byte string starts with, and the bytes behind it. -/
  read : Bytes → Except Fault (α × Bytes)
  read_write : ∀ {a e} rest, write a = .ok e → read (e ++ rest) = .ok (a, rest)
  write_read : ∀ {bs a rest}, read bs = .ok (a, rest) → ∃ e, write a = .ok e ∧ bs = e ++ rest

/-- The first `n` bytes, and the bytes behind them. -/
def take (n : Nat) (bs : Bytes) : Except Fault (Bytes × Bytes) :=
  if n ≤ bs.length then .ok (bs.take n, bs.drop n) else .error .unexpectedEnd

theorem take_append {n : Nat} {e : Bytes} (h : e.length = n) (rest : Bytes) :
    take n (e ++ rest) = .ok (e, rest) := by
  subst h
  simp [take]

theorem take_eq_ok {n : Nat} {bs e rest : Bytes} (h : take n bs = .ok (e, rest)) :
    e.length = n ∧ bs = e ++ rest := by
  rw [take] at h
  split at h
  · rename_i hn
    cases h
    exact ⟨by rw [List.length_take]; omega, (List.take_append_drop n bs).symm⟩
  · cases h

namespace Layout

variable {α β : Type}

/-- Reads a byte string that holds a value and nothing else. -/
def readAll (l : Layout α) (bs : Bytes) : Except Fault α := do
  let (a, rest) ← l.read bs
  if rest.isEmpty then .ok a else .error .leftover

/-- One value behind another. -/
def pair (l : Layout α) (m : Layout β) : Layout (α × β) where
  write p := do
    let e ← l.write p.1
    let f ← m.write p.2
    return e ++ f
  read bs := do
    let (a, rest) ← l.read bs
    let (b, rest) ← m.read rest
    return ((a, b), rest)
  read_write := by
    intro p e rest h
    cases hl : l.write p.1 with
    | error => simp [hl, bind, Except.bind] at h
    | ok e₁ =>
      cases hm : m.write p.2 with
      | error => simp [hl, hm, bind, Except.bind] at h
      | ok e₂ =>
        simp only [hl, hm, bind, Except.bind, pure, Except.pure, Except.ok.injEq] at h
        subst h
        simp [l.read_write _ hl, m.read_write _ hm, bind, Except.bind, pure, Except.pure]
  write_read := by
    intro bs p rest h
    cases hl : l.read bs with
    | error => simp [hl, bind, Except.bind] at h
    | ok q =>
      cases hm : m.read q.2 with
      | error => simp [hl, hm, bind, Except.bind] at h
      | ok r =>
        simp only [hl, hm, bind, Except.bind, pure, Except.pure, Except.ok.injEq] at h
        cases h
        obtain ⟨e₁, h₁, hb₁⟩ := l.write_read hl
        obtain ⟨e₂, h₂, hb₂⟩ := m.write_read hm
        refine ⟨e₁ ++ e₂, by simp [h₁, h₂, bind, Except.bind, pure, Except.pure], ?_⟩
        rw [hb₁, hb₂, List.append_assoc]

/-- The same bytes for another type, by a pair of inverse functions. -/
def iso (l : Layout α) (there : α → β) (back : β → α) (there_back : ∀ b, there (back b) = b)
    (back_there : ∀ a, back (there a) = a) : Layout β where
  write b := l.write (back b)
  read bs := (l.read bs).map fun p => (there p.1, p.2)
  read_write := by
    intro b e rest h
    simp [l.read_write _ h, Except.map, there_back]
  write_read := by
    intro bs b rest h
    cases hl : l.read bs with
    | error => simp [hl, Except.map] at h
    | ok q =>
      simp only [hl, Except.map, Except.ok.injEq] at h
      cases h
      obtain ⟨e, he, hb⟩ := l.write_read hl
      exact ⟨e, by rw [back_there]; exact he, hb⟩

/-- An integer of `k` bytes. -/
def word (k : Nat) : Layout (BitVec (8 * k)) where
  write n := .ok (Bytes.ofNatLE k n.toNat)
  read bs := (take k bs).map fun p => (BitVec.ofNat _ p.1.toNatLE, p.2)
  read_write := by
    intro n e rest h
    cases h
    rw [take_append (Bytes.length_ofNatLE k _)]
    simp only [Except.map, Bytes.toNatLE_ofNatLE]
    have hk : Nat.pow 256 k = 2 ^ (8 * k) := (Nat.pow_mul 2 8 k).symm
    rw [hk, Nat.mod_eq_of_lt n.isLt, BitVec.ofNat_toNat, BitVec.setWidth_eq]
  write_read := by
    intro bs n rest h
    cases ht : take k bs with
    | error => simp [ht, Except.map] at h
    | ok p =>
      simp only [ht, Except.map, Except.ok.injEq] at h
      cases h
      obtain ⟨first, rest⟩ := p
      obtain ⟨hlen, hb⟩ := take_eq_ok ht
      refine ⟨first, ?_, hb⟩
      have hlt := Bytes.toNatLE_lt first
      have hk : Nat.pow 256 k = 2 ^ (8 * k) := (Nat.pow_mul 2 8 k).symm
      rw [hlen, hk] at hlt
      rw [BitVec.toNat_ofNat, Nat.mod_eq_of_lt hlt]
      have he := Bytes.ofNatLE_toNatLE first
      rw [hlen] at he
      rw [he]

/-- One byte. -/
def byte : Layout UInt8 where
  write b := .ok [b]
  read
    | [] => .error .unexpectedEnd
    | b :: rest => .ok (b, rest)
  read_write := by
    intro b e rest h
    cases h
    rfl
  write_read := by
    intro bs b rest h
    cases bs with
    | nil => cases h
    | cons c cs => cases h; exact ⟨[b], rfl, rfl⟩

/-- A truth value, one byte that is zero or one. -/
def flag : Layout Bool where
  write b := .ok [if b then 1 else 0]
  read
    | [] => .error .unexpectedEnd
    | b :: rest =>
      if b = 0 then .ok (false, rest) else if b = 1 then .ok (true, rest) else .error (.boolean b)
  read_write := by
    intro b e rest h
    cases h
    cases b <;> rfl
  write_read := by
    intro bs b rest h
    cases bs with
    | nil => cases h
    | cons c cs =>
      by_cases h0 : c = 0
      · simp [h0] at h
        obtain ⟨rfl, rfl⟩ := h
        exact ⟨[0], rfl, by rw [h0]; rfl⟩
      · by_cases h1 : c = 1
        · simp [h1] at h
          obtain ⟨rfl, rfl⟩ := h
          exact ⟨[1], rfl, by rw [h1]; rfl⟩
        · simp [h0, h1] at h

/-- A fixed number of bytes. -/
def block (n : Nat) : Layout { bs : Bytes // bs.length = n } where
  write b := .ok b.1
  read bs :=
    if h : n ≤ bs.length then .ok (⟨bs.take n, by rw [List.length_take]; omega⟩, bs.drop n)
    else .error .unexpectedEnd
  read_write := by
    intro b e rest h
    cases h
    obtain ⟨bs, rfl⟩ := b
    simp
  write_read := by
    intro bs b rest h
    split at h
    · cases h
      exact ⟨_, rfl, (List.take_append_drop n bs).symm⟩
    · cases h

/-- A byte string behind its length in four bytes. -/
def blob : Layout Bytes where
  write bs :=
    if bs.length < UInt32.size then .ok (Bytes.ofNatLE 4 bs.length ++ bs) else .error .tooLong
  read bs := do
    let (n, rest) ← (word 4).read bs
    take n.toNat rest
  read_write := by
    intro bs e rest h
    split at h
    · rename_i hlt
      cases h
      have hn : (BitVec.ofNat 32 bs.length).toNat = bs.length := by
        rw [BitVec.toNat_ofNat, Nat.mod_eq_of_lt hlt]
      have hw : (word 4).write (BitVec.ofNat 32 bs.length) = .ok (Bytes.ofNatLE 4 bs.length) :=
        congrArg (fun n => Except.ok (Bytes.ofNatLE 4 n)) hn
      rw [List.append_assoc, (word 4).read_write (bs ++ rest) hw]
      exact take_append hn.symm rest
    · cases h
  write_read := by
    intro bs b rest h
    cases hn : (word 4).read bs with
    | error => simp [hn, bind, Except.bind] at h
    | ok p =>
      simp only [hn, bind, Except.bind] at h
      obtain ⟨hlen, hp⟩ := take_eq_ok h
      obtain ⟨e, he, hb⟩ := (word 4).write_read hn
      have hlt : b.length < UInt32.size := by rw [hlen]; exact p.1.isLt
      refine ⟨e ++ b, ?_, by rw [hb, hp, List.append_assoc]⟩
      simp only [word, Except.ok.injEq] at he
      rw [if_pos hlt, ← he, hlen]

/-- A text, by its UTF-8 bytes. -/
def text : Layout String where
  write s := blob.write (Text.toBytes s)
  read bs := do
    let (content, rest) ← blob.read bs
    match Text.ofBytes content with
    | .ok s => .ok (s, rest)
    | .error fault => .error (.text fault)
  read_write := by
    intro s e rest h
    simp [blob.read_write rest h, bind, Except.bind]
  write_read := by
    intro bs s rest h
    cases hc : blob.read bs with
    | error => simp [hc, bind, Except.bind] at h
    | ok p =>
      simp only [hc, bind, Except.bind] at h
      split at h
      · rename_i t ht
        cases h
        obtain ⟨e, he, hb⟩ := blob.write_read hc
        exact ⟨e, by rw [Text.toBytes_of_ofBytes ht]; exact he, hb⟩
      · cases h

end Layout

end CrossSwap.Borsh
