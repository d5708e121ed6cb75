import CrossSwap.Canonical.Entity
import CrossSwap.Proofs.Canonical.Fields

/-!
# What is accepted as an entity

An entity is accepted from one list that starts with its encoded fields.  Behind them the payload
may go on with bytes that start no further item; the bytes are the canonical ones exactly when it
does not.
-/

namespace CrossSwap

open Rlp

namespace Fields

variable {payload tail : Bytes} {items : List Bytes}

/-- A list is opened exactly when it has the expected number of complete items. -/
theorem open_eq (hs : Splits payload items tail) (hlt : payload.length < sizeLimit)
    (entity : String) (expected : Nat) :
    ∃ reader, reader.Over payload ∧
      Fields.open entity expected (listHeader payload.length ++ payload) =
        if items.length = expected then .ok ⟨entity, reader⟩
        else .error (.fieldCount entity expected items.length) := by
  obtain ⟨hcount, hover⟩ := (Reader.Over.ofBytes hlt).count_spec hs
  refine ⟨_, hover, ?_⟩
  rw [Fields.open, if_pos (isList_listHeader hlt payload), ← hcount]

end Fields

namespace Entity

variable {α : Type} [Entity α]

theorem ensureComplete_of_read {entity : String} {bs : Bytes} {h : Header}
    (hread : Header.read bs = .ok h) :
    ensureComplete entity bs =
      if bs.length < h.total then .error (.truncated entity (h.total - bs.length))
      else if h.total < bs.length then .error (.trailingBytes entity (bs.length - h.total))
      else .ok () := by
  cases bs with
  | nil => cases hread
  | cons b rest =>
      rw [ensureComplete, hread]
      rfl

theorem ensureComplete_eq_ok_iff {entity : String} {bs : Bytes} {u : Unit} :
    ensureComplete entity bs = .ok u ↔ IsItem bs := by
  rw [isItem_iff_header]
  cases hread : Header.read bs with
  | error fault =>
      rw [ensureComplete, hread]
      cases bs.isEmpty with
      | true => simp
      | false => cases fault <;> simp
  | ok h =>
      rw [ensureComplete_of_read hread]
      constructor
      · intro hok
        split at hok
        · cases hok
        split at hok
        · cases hok
        exact ⟨h, rfl, by omega⟩
      · rintro ⟨h', hsame, htotal⟩
        cases hsame
        rw [if_neg (by omega), if_neg (by omega)]

/-- The bytes of a complete item are decoded as the item is read: the check refuses nothing else. -/
theorem decode_of_isItem {bs : Bytes} (h : IsItem bs) : decode α bs = ofItem α bs := by
  have hcomplete : ensureComplete (name α) bs = .ok () := ensureComplete_eq_ok_iff.mpr h
  rw [decode, hcomplete]
  rfl

theorem isItem_of_decode {bs : Bytes} {a : α} (h : decode α bs = .ok a) : IsItem bs := by
  obtain ⟨u, hcomplete, -⟩ := bind_eq_ok_iff.mp h
  exact ensureComplete_eq_ok_iff.mp hcomplete

/-- The bytes of an entity with `tail` behind its last field, inside the list. -/
def encodeWith (a : α) (tail : Bytes) : Bytes :=
  listHeader ((items a).flatten ++ tail).length ++ ((items a).flatten ++ tail)

theorem encodeWith_nil (a : α) : encodeWith a [] = encode a := by
  rw [encodeWith, List.append_nil]
  rfl

theorem length_flatten_items_le (a : α) : (items a).flatten.length ≤ (encode a).length :=
  length_flatten_le_length_ofItems (items a)

theorem isItem_encode {a : α} (hlt : (encode a).length < sizeLimit) : IsItem (encode a) :=
  .list _ (Nat.lt_of_le_of_lt (length_flatten_items_le a) hlt)

/-- What a field holds is no longer than the bytes of its entity. -/
theorem length_le_length_encode {a : α} {content : Bytes} (h : ofData content ∈ items a) :
    content.length ≤ (encode a).length :=
  calc content.length ≤ (ofData content).length := length_le_length_ofData content
    _ ≤ (items a).flatten.length := length_le_length_flatten h
    _ ≤ (encode a).length := length_flatten_items_le a

end Entity

/-- Entities whose fields are written as data and read from nothing else. -/
class LawfulEntity (α : Type) [Entity α] : Prop where
  exists_contents : ∀ a : α, ∃ contents : List Bytes, Entity.items a = contents.map ofData
  length_items : ∀ a : α, (Entity.items a).length = Entity.fieldCount α
  decodes : ∀ {payload tail : Bytes} {items : List Bytes}, Splits payload items tail →
    payload.length < sizeLimit → items.length = Entity.fieldCount α →
      FieldReader.Decodes payload (Entity.read : FieldReader α) (items = Entity.items ·)

namespace Entity

variable {α : Type} [Entity α] [LawfulEntity α] {a : α} {bs tail : Bytes}

/-- The fields of an entity are the complete items of its payload. -/
theorem splits (a : α) (htail : Unreadable tail)
    (hlt : ((items a).flatten ++ tail).length < sizeLimit) :
    Splits ((items a).flatten ++ tail) (items a) tail where
  eq_append := rfl
  isItem := by
    intro item hmem
    obtain ⟨contents, hcontents⟩ := LawfulEntity.exists_contents a
    have hitem := length_le_length_flatten hmem
    rw [hcontents] at hmem
    obtain ⟨content, -, rfl⟩ := List.mem_map.mp hmem
    apply isItem_ofData
    have hcontent := length_le_length_ofData content
    rw [List.length_append] at hlt
    omega
  unreadable := htail

theorem decode_eq_ok_iff :
    decode α bs = .ok a ↔
      ∃ tail, Unreadable tail ∧ ((items a).flatten ++ tail).length < sizeLimit ∧
        bs = encodeWith a tail := by
  constructor
  · intro hdecode
    have hitem := isItem_of_decode hdecode
    rw [decode_of_isItem hitem] at hdecode
    obtain ⟨fs, hopen, hread⟩ := bind_eq_ok_iff.mp hdecode
    obtain ⟨hlist, -⟩ := Fields.open_eq_ok_iff.mp hopen
    obtain ⟨payload, hlt, rfl⟩ := hitem.exists_payload hlist
    obtain ⟨fields, tail, hs⟩ := exists_splits payload
    obtain ⟨reader, hover, hopen'⟩ := Fields.open_eq hs hlt (name α) (fieldCount α)
    rw [hopen'] at hopen
    split at hopen
    · rename_i hlength
      cases hopen
      obtain ⟨hok, -⟩ := LawfulEntity.decodes hs hlt hlength ⟨name α, reader⟩ hover
      have hfields : fields = items a := (hok a).mp hread
      have hpayload : payload = (items a).flatten ++ tail := hfields ▸ hs.eq_append
      rw [hpayload] at hlt
      exact ⟨tail, hs.unreadable, hlt, by rw [hpayload, encodeWith]⟩
    · cases hopen
  · rintro ⟨tail, htail, hlt, rfl⟩
    have hs := splits a htail hlt
    obtain ⟨reader, hover, hopen⟩ := Fields.open_eq hs hlt (name α) (fieldCount α)
    rw [if_pos (LawfulEntity.length_items a)] at hopen
    obtain ⟨hok, -⟩ :=
      LawfulEntity.decodes hs hlt (LawfulEntity.length_items a) ⟨name α, reader⟩ hover
    rw [encodeWith, decode_of_isItem (.list _ hlt)]
    apply bind_eq_ok_iff.mpr
    exact ⟨_, hopen, (hok a).mpr rfl⟩

/-- What is decoded is written with the bytes that were left unread. -/
theorem eq_encodeWith_unread (h : decode α bs = .ok a) : bs = encodeWith a (unread bs) := by
  obtain ⟨tail, htail, hlt, rfl⟩ := decode_eq_ok_iff.mp h
  have hunread : unread (encodeWith a tail) = tail := (splits a htail hlt).unread_eq hlt
  rw [hunread]

theorem unread_encode (hlt : (items a).flatten.length < sizeLimit) : unread (encode a) = [] := by
  rw [← encodeWith_nil]
  rw [← List.append_nil (items a).flatten] at hlt
  exact (splits a unreadable_nil hlt).unread_eq hlt

theorem decode_encode (hlt : (encode a).length < sizeLimit) : decode α (encode a) = .ok a := by
  apply decode_eq_ok_iff.mpr
  refine ⟨[], unreadable_nil, ?_, (encodeWith_nil a).symm⟩
  rw [List.append_nil]
  exact Nat.lt_of_le_of_lt (length_flatten_items_le a) hlt

/-- Bytes that are accepted as an entity are refused by every type with another number of fields,
whatever the fields hold and whatever was left unread behind them. -/
theorem decode_of_fieldCount_ne {β : Type} [Entity β] (h : decode α bs = .ok a)
    (hcount : fieldCount α ≠ fieldCount β) :
    decode β bs = .error (.fieldCount (name β) (fieldCount β) (fieldCount α)) := by
  obtain ⟨tail, htail, hlt, rfl⟩ := decode_eq_ok_iff.mp h
  obtain ⟨reader, -, hopen⟩ :=
    Fields.open_eq (splits a htail hlt) hlt (name β) (fieldCount β)
  rw [LawfulEntity.length_items a, if_neg hcount] at hopen
  rw [decode_of_isItem (isItem_of_decode h), ofItem, encodeWith, hopen]
  rfl

theorem decode_encode_of_fieldCount_ne {β : Type} [Entity β] (hcount : fieldCount α ≠ fieldCount β)
    (hlt : (encode a).length < sizeLimit) :
    decode β (encode a) = .error (.fieldCount (name β) (fieldCount β) (fieldCount α)) :=
  decode_of_fieldCount_ne (decode_encode hlt) hcount

/-- Accepted bytes are the canonical ones exactly when the whole payload was read. -/
theorem encode_eq_iff_of_decode (h : decode α bs = .ok a) :
    encode a = bs ↔ unread bs = [] := by
  have hbs := eq_encodeWith_unread h
  obtain ⟨tail, htail, hlt, -⟩ := decode_eq_ok_iff.mp h
  constructor
  · rintro rfl
    apply unread_encode
    rw [List.length_append] at hlt
    omega
  · intro hunread
    rw [hbs, hunread, encodeWith_nil]

end Entity

end CrossSwap
