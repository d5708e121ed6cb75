import CrossSwap.Canonical.Fields
import CrossSwap.Proofs.Rlp.Data
import CrossSwap.Proofs.Rlp.Reader

/-!
# Reads over one payload

A read over the fields of one list gives a value exactly under a condition on the payload, whatever
was read before it.  The condition of a read made of several is put together from theirs.
-/

namespace CrossSwap

theorem Text.ofBytes?_eq_some_iff {bs : Bytes} {s : String} :
    Text.ofBytes? bs = some s ↔ bs = Text.toBytes s := by
  constructor
  · intro h
    cases hread : Text.ofBytes bs with
    | error fault =>
        rw [Text.ofBytes?, hread] at h
        cases h
    | ok t =>
        rw [Text.ofBytes?, hread] at h
        cases h
        exact (Text.toBytes_of_ofBytes hread).symm
  · rintro rfl
    rw [Text.ofBytes?, Text.ofBytes_toBytes]
    rfl

namespace Fields

open Rlp

/-- A list is opened exactly with the number of items that are counted, and the cursor stays where
the count left it. -/
theorem open_eq_ok_iff {entity : String} {expected : Nat} {bs : Bytes} {fs : Fields} :
    Fields.open entity expected bs = .ok fs ↔
      isList bs = true ∧ (Reader.ofBytes bs).count.1 = expected ∧
        fs = ⟨entity, (Reader.ofBytes bs).count.2⟩ := by
  rw [Fields.open]
  constructor
  · intro hopen
    split at hopen
    · rename_i hlist
      dsimp only at hopen
      split at hopen
      · rename_i hcount
        cases hopen
        exact ⟨hlist, hcount, rfl⟩
      · cases hopen
    · cases hopen
  · rintro ⟨hlist, hcount, rfl⟩
    rw [if_pos hlist]
    exact if_pos hcount

end Fields

namespace FieldReader

open Rlp

/-- A read behind another goes on from the fields that the first one leaves. -/
theorem bind_apply {α β : Type} (read : FieldReader α) (next : α → FieldReader β) (fs : Fields) :
    (read >>= next) fs =
      match read fs with
      | (.ok a, fs') => next a fs'
      | (.error e, fs') => (.error e, fs') := by
  change (ExceptT.bindCont next (read fs).1) (read fs).2 = _
  obtain ⟨found, fs'⟩ := read fs
  cases found with
  | error e => rfl
  | ok a => rfl

theorem text_apply (i : Nat) (name : String) (fs : Fields) :
    text i name fs =
      match bytes i name fs with
      | (.ok bs, fs') =>
        match Text.ofBytes? bs with
        | some s => (.ok s, fs')
        | none => (.error (.invalidUtf8 fs'.entity name), fs')
      | (.error e, fs') => (.error e, fs') := by
  rw [text, bind_apply]
  obtain ⟨found, fs'⟩ := bytes i name fs
  cases found with
  | error e => rfl
  | ok bs =>
      dsimp only
      cases Text.ofBytes? bs with
      | some s => rfl
      | none => rfl

/-- Over the payload, wherever the cursor stands, the read gives exactly the values for which a
condition holds. -/
def Decodes {α : Type} (payload : Bytes) (read : FieldReader α) (P : α → Prop) : Prop :=
  ∀ fs : Fields, fs.reader.Over payload →
    (∀ a, (read fs).1 = .ok a ↔ P a) ∧ (read fs).2.reader.Over payload

namespace Decodes

variable {α β : Type} {payload tail item : Bytes} {items : List Bytes} {i : Nat}

theorem pure (a : α) : Decodes payload (Pure.pure a) (· = a) := by
  intro fs hfs
  refine ⟨?_, hfs⟩
  intro b
  constructor
  · intro h
    cases h
    rfl
  · rintro rfl
    rfl

theorem lift (x : Except EncodingError α) :
    Decodes payload (liftM x : FieldReader α) (x = .ok ·) := by
  intro fs hfs
  cases x with
  | error e => exact ⟨fun a => Iff.rfl, hfs⟩
  | ok b => exact ⟨fun a => Iff.rfl, hfs⟩

theorem bind {read : FieldReader α} {next : α → FieldReader β} {P : α → Prop}
    {Q : α → β → Prop} (hread : Decodes payload read P)
    (hnext : ∀ a, Decodes payload (next a) (Q a)) :
    Decodes payload (read >>= next) (fun b => ∃ a, P a ∧ Q a b) := by
  intro fs hfs
  obtain ⟨hok, hover⟩ := hread fs hfs
  rw [bind_apply]
  generalize read fs = outcome at hok hover
  obtain ⟨found, fs'⟩ := outcome
  cases found with
  | error e =>
      refine ⟨fun b => ?_, hover⟩
      constructor
      · intro h
        cases h
      · rintro ⟨a, ha, -⟩
        cases (hok a).mpr ha
  | ok a =>
      obtain ⟨hresult, hover'⟩ := hnext a fs' hover
      refine ⟨fun b => ?_, hover'⟩
      rw [hresult b]
      constructor
      · intro hb
        exact ⟨a, (hok a).mp rfl, hb⟩
      · rintro ⟨a', ha', hb⟩
        cases (hok a').mpr ha'
        exact hb

theorem congr {read : FieldReader α} {P Q : α → Prop} (hread : Decodes payload read P)
    (h : ∀ a, P a ↔ Q a) : Decodes payload read Q := by
  intro fs hfs
  obtain ⟨hok, hover⟩ := hread fs hfs
  exact ⟨fun a => (hok a).trans (h a), hover⟩

/-- A field is read from its item. -/
theorem value [Readable α] (hs : Splits payload items tail) (hi : items[i]? = some item)
    (name : String) :
    Decodes payload (FieldReader.value α i name) (Readable.ofItem item = .ok ·) := by
  intro fs hfs
  obtain ⟨hfound, hover⟩ := hfs.item_spec i
  rw [hs.nthItem_eq hi] at hfound
  refine ⟨fun a => ?_, hover⟩
  rw [FieldReader.value, hfound, mapError_eq_ok_iff]
  rfl

theorem bytes (hs : Splits payload items tail) (hlt : payload.length < sizeLimit)
    (hi : items[i]? = some item) (name : String) :
    Decodes payload (FieldReader.bytes i name) (item = ofData ·) := by
  have hmem := List.mem_of_getElem? hi
  have hitem := hs.isItem item hmem
  have hlength := Nat.lt_of_le_of_lt (hs.length_le_of_mem hmem) hlt
  exact (value hs hi name).congr fun bs => data_eq_ok_iff hitem hlength

theorem word {w : Nat} (hw : w % 8 = 0) (hs : Splits payload items tail)
    (hlt : payload.length < sizeLimit) (hi : items[i]? = some item) (name : String) :
    Decodes payload (FieldReader.value (BitVec w) i name) (fun n => item = ofNat n.toNat) := by
  have hmem := List.mem_of_getElem? hi
  have hitem := hs.isItem item hmem
  have hlength := Nat.lt_of_le_of_lt (hs.length_le_of_mem hmem) hlt
  refine (value hs hi name).congr fun n => ?_
  constructor
  · intro hread
    obtain ⟨bs, hdata, hword⟩ := bind_eq_ok_iff.mp hread
    rw [ofNat, ← (word_eq_ok_iff hw).mp hword]
    exact (data_eq_ok_iff hitem hlength).mp hdata
  · intro hnat
    apply bind_eq_ok_iff.mpr
    exact ⟨_, (data_eq_ok_iff hitem hlength).mpr hnat, (word_eq_ok_iff hw).mpr rfl⟩

/-- The second step of reading a text. -/
theorem ofBytes (name : String) (bs : Bytes) :
    Decodes payload
      (do
        match Text.ofBytes? bs with
        | some s => return s
        | none => throw (.invalidUtf8 (← get).entity name) : FieldReader String)
      (Text.ofBytes? bs = some ·) := by
  cases Text.ofBytes? bs with
  | some s => exact (pure s).congr fun t => by rw [Option.some_inj, eq_comm]
  | none =>
      intro fs hfs
      refine ⟨fun s => ?_, hfs⟩
      constructor <;> intro h <;> cases h

theorem text (hs : Splits payload items tail) (hlt : payload.length < sizeLimit)
    (hi : items[i]? = some item) (name : String) :
    Decodes payload (FieldReader.text i name) (fun s => item = ofData (Text.toBytes s)) := by
  have hread := (bytes hs hlt hi name).bind (ofBytes name)
  refine Decodes.congr hread fun s => ?_
  constructor
  · rintro ⟨bs, hitem, htext⟩
    rw [hitem, Text.ofBytes?_eq_some_iff.mp htext]
  · intro hitem
    exact ⟨Text.toBytes s, hitem, Text.ofBytes?_eq_some_iff.mpr rfl⟩

end Decodes

end FieldReader

end CrossSwap
