import CrossSwap.Proofs.Borsh.Layout
import CrossSwap.Proofs.Ledger.Discriminator

/-!
# The data of events

Data is read as an event exactly when it is the data of that event, and it is no event of the
program exactly when it starts with no discriminator of one.
-/

namespace CrossSwap.Event

open Borsh Borsh.Layout

variable {e : Event} {kind : EventKind} {bs d : Bytes}

/-- The texts and byte strings of an event. -/
def contents : Event → List Bytes
  | swapIntent order => order.contents
  | orderFilled _ srcNid => [Text.toBytes srcNid]
  | orderCancelled _ srcNid => [Text.toBytes srcNid]
  | orderClosed _ => []
  | sendMessage targetNetwork _ msg => [Text.toBytes targetNetwork, msg]

theorem writable_settledLayout_iff {id : Word128} {srcNid : String} :
    settledLayout.Writable (id, srcNid) ↔ ∀ c ∈ [Text.toBytes srcNid], c.length < Nat.pow 2 32 := by
  have hid := writable_word 16 id
  change (pair (word 16) text).Writable (id, srcNid) ↔ _
  rw [writable_pair_iff, writable_text_iff, and_iff_right hid, List.forall_mem_singleton]

theorem exists_writeBody_iff :
    (∃ body, e.writeBody = .ok body) ↔ ∀ c ∈ e.contents, c.length < Nat.pow 2 32 := by
  cases e with
  | swapIntent order => exact SwapOrder.writable_layout_iff
  | orderFilled id srcNid => exact writable_settledLayout_iff
  | orderCancelled id srcNid => exact writable_settledLayout_iff
  | orderClosed id => exact iff_of_true (writable_word 16 id) (List.forall_mem_nil _)
  | sendMessage targetNetwork sn msg =>
      have hnumber := writable_word 16 sn
      change (pair text (pair (word 16) blob)).Writable (targetNetwork, sn, msg) ↔ _
      rw [writable_pair_iff, writable_pair_iff, writable_text_iff, and_iff_right hnumber,
        writable_blob_iff, contents, List.forall_mem_cons, List.forall_mem_singleton]

theorem readBody_eq_ok_iff : readBody kind bs = .ok e ↔ e.kind = kind ∧ e.writeBody = .ok bs := by
  constructor
  · intro h
    cases kind
    all_goals
      obtain ⟨body, hread, rfl⟩ := map_eq_ok_iff.mp h
      exact ⟨rfl, readAll_eq_ok_iff.mp hread⟩
  · rintro ⟨rfl, hwrite⟩
    cases e
    all_goals exact map_eq_ok_iff.mpr ⟨_, readAll_eq_ok_iff.mpr hwrite, rfl⟩

theorem toLogData_eq_ok_iff :
    e.toLogData = .ok d ↔ ∃ body, e.writeBody = .ok body ∧ d = e.kind.discriminator ++ body :=
  tagged_eq_ok_iff

theorem exists_toLogData_iff :
    (∃ d, e.toLogData = .ok d) ↔ ∀ c ∈ e.contents, c.length < Nat.pow 2 32 :=
  exists_tagged_iff.trans exists_writeBody_iff

theorem ofLogData_of_lt (h : d.length < discriminatorSize) : ofLogData d = .ok none :=
  if_pos h

theorem ofLogData_append {tag : Bytes} (htag : tag.length = discriminatorSize) (body : Bytes) :
    ofLogData (tag ++ body) =
      match EventKind.ofDiscriminator? tag with
      | none => .ok none
      | some kind => ((readBody kind body).mapError (.malformed kind.name)).map some := by
  rw [ofLogData, if_neg (not_lt_discriminatorSize htag body), List.take_left' htag,
    List.drop_left' htag]
  cases EventKind.ofDiscriminator? tag with
  | none => rfl
  | some kind =>
      cases hread : readBody kind body with
      | error fault => simp only [hread]; rfl
      | ok e => simp only [hread]; rfl

theorem ofLogData_eq_some_iff : ofLogData d = .ok (some e) ↔ e.toLogData = .ok d := by
  rw [toLogData_eq_ok_iff]
  constructor
  · intro h
    by_cases hshort : d.length < discriminatorSize
    · rw [ofLogData_of_lt hshort] at h
      cases h
    · obtain ⟨tag, body, htag, rfl⟩ := exists_eq_tag_append hshort
      rw [ofLogData_append htag] at h
      cases hkind : EventKind.ofDiscriminator? tag with
      | none =>
          rw [hkind] at h
          cases h
      | some kind =>
          rw [hkind] at h
          obtain ⟨found, hread, hfound⟩ := map_eq_ok_iff.mp h
          cases hfound
          obtain ⟨rfl, hwrite⟩ := readBody_eq_ok_iff.mp (mapError_eq_ok_iff.mp hread)
          exact ⟨body, hwrite, by rw [EventKind.ofDiscriminator?_eq_some_iff.mp hkind]⟩
  · rintro ⟨body, hwrite, rfl⟩
    have hkind : EventKind.ofDiscriminator? e.kind.discriminator = some e.kind :=
      EventKind.ofDiscriminator?_eq_some_iff.mpr rfl
    rw [ofLogData_append e.kind.length_discriminator, hkind]
    apply map_eq_ok_iff.mpr
    exact ⟨e, mapError_eq_ok_iff.mpr (readBody_eq_ok_iff.mpr ⟨rfl, hwrite⟩), rfl⟩

theorem not_prefix_of_lt (h : d.length < discriminatorSize) (kind : EventKind) :
    ¬kind.discriminator <+: d := by
  intro hstart
  have hle := hstart.length_le
  rw [kind.length_discriminator] at hle
  omega

theorem ofLogData_eq_none_iff :
    ofLogData d = .ok none ↔ ∀ kind : EventKind, ¬kind.discriminator <+: d := by
  by_cases hshort : d.length < discriminatorSize
  · exact iff_of_true (ofLogData_of_lt hshort) (not_prefix_of_lt hshort)
  obtain ⟨tag, body, htag, rfl⟩ := exists_eq_tag_append hshort
  rw [ofLogData_append htag]
  cases hkind : EventKind.ofDiscriminator? tag with
  | none =>
      refine iff_of_true rfl ?_
      rintro kind ⟨rest, heq⟩
      obtain ⟨hsame, -⟩ := List.append_inj heq (by rw [kind.length_discriminator, htag])
      rw [EventKind.ofDiscriminator?_eq_some_iff.mpr hsame] at hkind
      cases hkind
  | some kind =>
      have hstart : kind.discriminator <+: tag ++ body :=
        ⟨body, by rw [EventKind.ofDiscriminator?_eq_some_iff.mp hkind]⟩
      refine iff_of_false ?_ fun hnone => hnone kind hstart
      intro h
      obtain ⟨found, -, hfound⟩ := map_eq_ok_iff.mp h
      cases hfound

end CrossSwap.Event
