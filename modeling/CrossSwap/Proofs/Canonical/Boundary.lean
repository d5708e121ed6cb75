import CrossSwap.Proofs.Canonical.Decode

/-!
# Where the bytes of an entity end

The header of a list says where the list ends.  If the bytes stop before that, the fault tells how
many are missing, as far as the header is there to tell; if they go on behind it, it tells how many
are too many.  So no encoding is the start of other accepted bytes.
-/

namespace CrossSwap.Entity

open Rlp

section Complete

variable {entity : String} {bs cut missing payload : Bytes}

theorem ensureComplete_of_tooShort (hread : Header.read bs = .error .tooShort) :
    ensureComplete entity bs = .error (.truncated entity 1) := by
  rw [ensureComplete, hread]
  exact ite_self _

/-- A list that is cut off lacks exactly what was cut off, once its header is there. -/
theorem ensureComplete_of_cut (hlt : payload.length < sizeLimit)
    (hlist : listHeader payload.length ++ payload = cut ++ missing) (hne : missing ≠ []) :
    ensureComplete entity cut = .error (.truncated entity
      (if (listHeader payload.length).length ≤ cut.length then missing.length else 1)) := by
  have hstart : cut <+: listHeader payload.length ++ payload := hlist ▸ List.prefix_append ..
  by_cases hle : (listHeader payload.length).length ≤ cut.length
  · rw [if_pos hle]
    obtain ⟨part, rfl⟩ :=
      List.prefix_of_prefix_length_le (List.prefix_append _ payload) hstart hle
    have hpayload : payload = part ++ missing := by
      rw [List.append_assoc] at hlist
      exact List.append_cancel_left hlist
    have hlength : payload.length = part.length + missing.length := by
      rw [← List.length_append, ← hpayload]
    have hpos : 0 < missing.length := List.length_pos_iff.mpr hne
    -- The announced total is the length of the whole list, also where only a part is there.
    have hmissing : (listHeader payload.length).length + payload.length -
        (listHeader payload.length ++ part).length = missing.length := by
      rw [List.length_append]
      omega
    rw [ensureComplete_of_read (Header.read_listHeader hlt part), Header.total_mk, hmissing,
      if_pos (by omega)]
  · have hcut : Header.read cut = .error .tooShort :=
      Header.read_of_cut (Header.read_listHeader hlt payload) hstart (Nat.not_le.mp hle)
    rw [ensureComplete_of_tooShort hcut, if_neg hle]

theorem ensureComplete_append {item behind : Bytes} (hitem : IsItem item) (hne : behind ≠ []) :
    ensureComplete entity (item ++ behind) = .error (.trailingBytes entity behind.length) := by
  obtain ⟨h, hread, htotal⟩ := hitem.header
  have hpos : 0 < behind.length := List.length_pos_iff.mpr hne
  rw [ensureComplete_of_read (Header.read_append hread behind), htotal, List.length_append,
    if_neg (by omega), if_pos (by omega), Nat.add_sub_cancel_left]

end Complete

variable {α β : Type} [Entity α] [Entity β] {a : α} {bs cut missing behind : Bytes}

theorem decode_of_ensureComplete {e : EncodingError}
    (h : ensureComplete (name α) bs = .error e) : decode α bs = .error e := by
  rw [decode, h]
  rfl

/-- The header of the list that an entity is written as. -/
def header (a : α) : Bytes :=
  listHeader (items a).flatten.length

theorem decode_of_cut (hlt : (encode a).length < sizeLimit) (hcut : encode a = cut ++ missing)
    (hne : missing ≠ []) :
    decode β cut = .error (.truncated (name β)
      (if (header a).length ≤ cut.length then missing.length else 1)) :=
  decode_of_ensureComplete
    (ensureComplete_of_cut (Nat.lt_of_le_of_lt (length_flatten_items_le a) hlt) hcut hne)

theorem decode_encode_append (hlt : (encode a).length < sizeLimit) (hne : behind ≠ []) :
    decode β (encode a ++ behind) = .error (.trailingBytes (name β) behind.length) :=
  decode_of_ensureComplete (ensureComplete_append (isItem_encode hlt) hne)

/-- Accepted bytes are the start of no other accepted bytes, whatever they are accepted as. -/
theorem eq_of_isPrefix_of_decode {bs' : Bytes} {b : β} (h : decode α bs = .ok a)
    (h' : decode β bs' = .ok b) (hstart : bs <+: bs') : bs = bs' :=
  (isItem_of_decode h).eq_of_isPrefix (isItem_of_decode h') hstart

end CrossSwap.Entity
