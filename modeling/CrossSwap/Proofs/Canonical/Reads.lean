import CrossSwap.Proofs.Canonical.Decode

/-!
# Reads in a row

Opening a list leaves the cursor behind the items that were counted, and each read moves it on,
failed reads included.  Over one complete list nothing of that shows: whatever was read before, a
read is answered from the item that walking over the payload from its start finds.
-/

namespace CrossSwap

open Rlp

/-- The reads of one field that give values of a type. -/
inductive FieldRead : Type → Type 1 where
  | value (α : Type) [Readable α] (index : Nat) (name : String) : FieldRead α
  | bytes (index : Nat) (name : String) : FieldRead Bytes
  | text (index : Nat) (name : String) : FieldRead String

namespace FieldRead

variable {α : Type}

def index : FieldRead α → Nat
  | value _ i _ => i
  | bytes i _ => i
  | text i _ => i

def step : FieldRead α → FieldReader α
  | value α i name => FieldReader.value α i name
  | bytes i name => FieldReader.bytes i name
  | text i name => FieldReader.text i name

/-- What the read makes of the item at its index, or of the fault that was found there. -/
def ofFound (entity : String) (found : Except Fault Bytes) : FieldRead α → Except EncodingError α
  | value _ _ name => (found.bind Readable.ofItem).mapError (.field entity name)
  | bytes _ name => (found.bind data).mapError (.field entity name)
  | text _ name =>
    match (found.bind data).mapError (.field entity name) with
    | .error e => .error e
    | .ok bs =>
      match Text.ofBytes? bs with
      | some s => .ok s
      | none => .error (.invalidUtf8 entity name)

theorem step_eq (read : FieldRead α) (fs : Fields) :
    read.step fs = (read.ofFound fs.entity (fs.reader.item read.index).1,
      { fs with reader := (fs.reader.item read.index).2 }) := by
  cases read with
  | value α i name => rfl
  | bytes i name => rfl
  | text i name =>
      have hbytes : FieldReader.bytes i name fs =
          (((fs.reader.item i).1.bind data).mapError (.field fs.entity name),
            { fs with reader := (fs.reader.item i).2 }) := rfl
      rw [step, FieldReader.text_apply, hbytes, ofFound, index]
      cases ((fs.reader.item i).1.bind data).mapError (EncodingError.field fs.entity name) with
      | error e => rfl
      | ok bs =>
          dsimp only
          cases Text.ofBytes? bs with
          | some s => rfl
          | none => rfl

/-- One read is answered from the item that the walk finds, and keeps the cursor over the payload. -/
theorem step_spec {payload : Bytes} {fs : Fields} (h : fs.reader.Over payload)
    (read : FieldRead α) :
    (read.step fs).1 = read.ofFound fs.entity (nthItem read.index payload) ∧
      (read.step fs).2.entity = fs.entity ∧ (read.step fs).2.reader.Over payload := by
  obtain ⟨hfound, hover⟩ := h.item_spec read.index
  rw [step_eq, hfound]
  exact ⟨rfl, rfl, hover⟩

end FieldRead

namespace Fields

/-- The answers to reads that are made one after the other on the same fields. -/
def answers (fs : Fields) : List (Sigma FieldRead) → List ((α : Type) × Except EncodingError α)
  | [] => []
  | ⟨α, read⟩ :: reads => ⟨α, (read.step fs).1⟩ :: answers (read.step fs).2 reads

theorem answers_eq_map {payload : Bytes} {fs : Fields} (h : fs.reader.Over payload)
    (reads : List (Sigma FieldRead)) :
    fs.answers reads =
      reads.map fun read =>
        ⟨read.1, read.2.ofFound fs.entity (nthItem read.2.index payload)⟩ := by
  induction reads generalizing fs with
  | nil => rfl
  | cons read reads ih =>
      -- The cursor that the read leaves stands inside the payload again.
      obtain ⟨hanswer, hentity, hover⟩ := read.2.step_spec h
      rw [answers, List.map_cons, hanswer, ih hover, hentity]

theorem over_of_open {entity : String} {expected : Nat} {bs : Bytes} {fs : Fields} {h : Header}
    (hread : Header.read bs = .ok h) (htotal : h.total = bs.length)
    (hopen : Fields.open entity expected bs = .ok fs) :
    fs.entity = entity ∧ fs.reader.Over (bs.drop h.headerLength) := by
  obtain ⟨hlist, -, rfl⟩ := open_eq_ok_iff.mp hopen
  have hitem : IsItem bs := isItem_iff_header.mpr ⟨h, hread, htotal⟩
  obtain ⟨payload, hlt, rfl⟩ := hitem.exists_payload hlist
  rw [Header.read_listHeader hlt] at hread
  cases hread
  obtain ⟨items, tail, hs⟩ := exists_splits payload
  obtain ⟨-, hover⟩ := (Reader.Over.ofBytes hlt).count_spec hs
  rw [List.drop_left]
  exact ⟨rfl, hover⟩

/-- Over one complete list every read of a row is answered as it would be as the first one, from the
item that walking over the payload from its start finds. -/
theorem answers_eq_map_eval {entity : String} {expected : Nat} {bs : Bytes} {fs : Fields}
    {h : Header} (hread : Header.read bs = .ok h) (htotal : h.total = bs.length)
    (hopen : Fields.open entity expected bs = .ok fs) :
    (∀ reads : List (Sigma FieldRead),
      fs.answers reads = reads.map fun read => ⟨read.1, fs.eval read.2.step⟩) ∧
    ∀ (α : Type) (read : FieldRead α),
      fs.eval read.step = read.ofFound entity (nthItem read.index (bs.drop h.headerLength)) := by
  obtain ⟨rfl, hover⟩ := over_of_open hread htotal hopen
  have hfirst : ∀ (α : Type) (read : FieldRead α), fs.eval read.step =
      read.ofFound fs.entity (nthItem read.index (bs.drop h.headerLength)) :=
    fun α read => (read.step_spec hover).1
  refine ⟨fun reads => ?_, hfirst⟩
  rw [answers_eq_map hover]
  apply List.map_congr_left
  intro read _
  rw [hfirst]

/-- Reads behind the end, of the wrong type and of the same item again, forwards and backwards. -/
theorem answers_eq_map_eval_failing :
    let bs : Bytes := [0xC5, 0x82, 0x03, 0xE8, 0x81, 0x05]
    let fs : Fields := ⟨"Pair", bs, some ⟨2, 6⟩⟩
    Header.read bs = .ok ⟨1, 5⟩ ∧ Fields.open "Pair" 2 bs = .ok fs ∧
      fs.answers [⟨_, .text 7 "none"⟩, ⟨_, .value Word128 0 "value"⟩, ⟨_, .bytes 1 "data"⟩,
          ⟨_, .text 0 "value"⟩, ⟨_, .value Word128 0 "value"⟩, ⟨_, .bytes 0 "value"⟩] =
        [⟨String, .error (.field "Pair" "none" .tooShort)⟩, ⟨Word128, .ok 1000⟩,
          ⟨Bytes, .error (.field "Pair" "data" .indirection)⟩,
          ⟨String, .error (.invalidUtf8 "Pair" "value")⟩, ⟨Word128, .ok 1000⟩,
          ⟨Bytes, .ok [0x03, 0xE8]⟩] := by
  intro bs fs
  have hread : Header.read bs = .ok ⟨1, 5⟩ := rfl
  have hopen : Fields.open "Pair" 2 bs = .ok fs := open_eq_ok_iff.mpr (by decide +kernel)
  obtain ⟨hanswers, -⟩ := answers_eq_map_eval hread rfl hopen
  rw [hanswers]
  exact ⟨hread, hopen, rfl⟩

/-- With a byte behind the list the second item is found only by a search that goes on from the
first. -/
example : ∃ fs, Fields.open "Pair" 2 [0xC1, 5, 6] = .ok fs ∧
    fs.answers [⟨_, .bytes 1 "data"⟩, ⟨_, .bytes 0 "value"⟩, ⟨_, .bytes 1 "data"⟩] =
      [⟨Bytes, .error (.field "Pair" "data" .tooShort)⟩, ⟨Bytes, .ok [5]⟩, ⟨Bytes, .ok [6]⟩] :=
  ⟨_, rfl, rfl⟩

end Fields

end CrossSwap
