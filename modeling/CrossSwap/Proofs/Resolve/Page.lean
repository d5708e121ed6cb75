import Mathlib.Data.List.Basic
import CrossSwap.Proofs.Range
import CrossSwap.Resolve.Page

/-!
# Pages one behind the other

A page is a window of the list.  The first pages together are the start of the list, and a page that
no other follows ends it.
-/

namespace CrossSwap

/-! ## Windows of a list -/

section Windows

variable {α : Type} {xs : List α} {start limit : Nat}

theorem take_drop_clamped :
    (xs.drop (min start xs.length)).take
        (min (min start xs.length + limit) xs.length - min start xs.length) =
      (xs.drop start).take limit := by
  have hdrop : xs.drop (min start xs.length) = xs.drop start := by
    rcases Nat.le_total start xs.length with hle | hle
    · rw [Nat.min_eq_left hle]
    · rw [Nat.min_eq_right hle, List.drop_length, List.drop_eq_nil_of_le hle]
  rw [hdrop, List.take_eq_take_iff, List.length_drop]
  omega

/-- Windows of one width, one behind the other, are the start of the list. -/
theorem flatMap_windows (xs : List α) (width k : Nat) :
    (List.range k).flatMap (fun i => (xs.drop (i * width)).take width) = xs.take (k * width) := by
  induction k with
  | zero => rw [Nat.zero_mul, List.take_zero, List.range_zero, List.flatMap_nil]
  | succ k ih =>
      rw [List.range_succ, List.flatMap_append, ih, List.flatMap_singleton, Nat.succ_mul,
        List.take_add]

end Windows

/-- A page whose steps all have to stay in range. -/
def AccountsPage.checked? (accounts : List AccountEntry) (page limit : UInt8) :
    Option AccountsPage :=
  AccountsPage.steps .enforced accounts page limit

/-- What the pages from the first on show together, `k` of them. -/
def firstPages (accounts : List AccountEntry) (limit : UInt8) (k : Nat) : List AccountView :=
  (List.range k).flatMap fun i => (paginate accounts (UInt8.ofNat (i + 1)) limit).accounts

section Pages

variable {accounts : List AccountEntry} {page later limit : UInt8}

theorem max_one_of_le (h : 1 ≤ page) : max page 1 = page := by
  change (if page ≤ 1 then 1 else page) = page
  split
  · rename_i hle
    exact UInt8.le_antisymm h hle
  · rfl

theorem one_le_max_one (page : UInt8) : 1 ≤ max page 1 := by
  change 1 ≤ if page ≤ 1 then 1 else page
  split
  · exact UInt8.le_refl 1
  · rename_i hlt
    exact UInt8.le_of_lt (UInt8.not_le.mp hlt)

/-- The window of a page before its number is cleared of page zero. -/
theorem accounts_paginate_max :
    (paginate accounts page limit).accounts =
      ((accounts.drop (((max page 1).toNat - 1) * limit.toNat)).take limit.toNat).map
        AccountEntry.view :=
  congrArg (List.map AccountEntry.view) take_drop_clamped

theorem hasNextPage_paginate_max_iff :
    (paginate accounts page limit).hasNextPage = true ↔
      0 < limit.toNat ∧ min (min (((max page 1).toNat - 1) * limit.toNat) accounts.length +
        limit.toNat) accounts.length < accounts.length :=
  decide_eq_true_iff

theorem accounts_paginate (hpage : 1 ≤ page) :
    (paginate accounts page limit).accounts =
      ((accounts.drop ((page.toNat - 1) * limit.toNat)).take limit.toNat).map
        AccountEntry.view := by
  rw [accounts_paginate_max, max_one_of_le hpage]

theorem exists_toNat_eq_succ (hpage : 1 ≤ page) : ∃ before, page.toNat = before + 1 :=
  Nat.exists_eq_add_of_le' hpage

theorem sub_one_mul_add (hpage : 1 ≤ page) (limit : UInt8) :
    (page.toNat - 1) * limit.toNat + limit.toNat = page.toNat * limit.toNat := by
  obtain ⟨before, hbefore⟩ := exists_toNat_eq_succ hpage
  rw [hbefore, Nat.add_sub_cancel, Nat.succ_mul]

theorem getElem?_paginate_eq_some_iff (hpage : 1 ≤ page) {i : Nat} {v : AccountView} :
    (paginate accounts page limit).accounts[i]? = some v ↔
      (page.toNat - 1) * limit.toNat + i < min (page.toNat * limit.toNat) accounts.length ∧
        ∃ a, accounts[(page.toNat - 1) * limit.toNat + i]? = some a ∧ v = a.view := by
  have hend := sub_one_mul_add hpage limit
  rw [accounts_paginate hpage, List.getElem?_map, List.getElem?_take]
  by_cases hi : i < limit.toNat
  · rw [if_pos hi, List.getElem?_drop, Option.map_eq_some_iff]
    constructor
    · rintro ⟨a, ha, rfl⟩
      obtain ⟨hlt, -⟩ := List.getElem?_eq_some_iff.mp ha
      exact ⟨by omega, a, ha, rfl⟩
    · rintro ⟨-, a, ha, rfl⟩
      exact ⟨a, ha, rfl⟩
  · rw [if_neg hi]
    constructor
    · intro h
      cases h
    · rintro ⟨hlt, -⟩
      omega

theorem hasNextPage_paginate_iff (hpage : 1 ≤ page) (hlimit : 1 ≤ limit) :
    (paginate accounts page limit).hasNextPage = true ↔
      page.toNat * limit.toNat < accounts.length := by
  have hpos : 1 ≤ limit.toNat := hlimit
  have hend := sub_one_mul_add hpage limit
  rw [hasNextPage_paginate_max_iff, max_one_of_le hpage]
  omega

theorem length_le_of_not_hasNextPage (hpage : 1 ≤ page) (hlimit : 1 ≤ limit)
    (h : (paginate accounts page limit).hasNextPage = false) :
    accounts.length ≤ page.toNat * limit.toNat := by
  apply Nat.not_lt.mp
  rw [← hasNextPage_paginate_iff hpage hlimit, h]
  exact Bool.false_ne_true

theorem accounts_eq_nil_of_later (hpage : 1 ≤ page) (hlimit : 1 ≤ limit)
    (h : (paginate accounts page limit).hasNextPage = false) (hlater : page < later) :
    (paginate accounts later limit).accounts = [] := by
  have hcovered := length_le_of_not_hasNextPage hpage hlimit h
  have hbefore : page.toNat ≤ later.toNat - 1 := Nat.le_sub_one_of_lt hlater
  have hstart : accounts.length ≤ (later.toNat - 1) * limit.toNat :=
    Nat.le_trans hcovered (Nat.mul_le_mul_right _ hbefore)
  rw [accounts_paginate (UInt8.le_trans hpage (UInt8.le_of_lt hlater)),
    List.drop_eq_nil_of_le hstart, List.take_nil, List.map_nil]

theorem firstPages_eq {k : Nat} (hk : k ≤ 255) :
    firstPages accounts limit k = (accounts.take (k * limit.toNat)).map AccountEntry.view := by
  have hpage : ∀ i ∈ List.range k, (paginate accounts (UInt8.ofNat (i + 1)) limit).accounts =
      ((accounts.drop (i * limit.toNat)).take limit.toNat).map AccountEntry.view := by
    intro i hi
    have hlt : i + 1 < 256 := Nat.lt_of_le_of_lt (List.mem_range.mp hi) (Nat.lt_succ_of_le hk)
    have htoNat : (UInt8.ofNat (i + 1)).toNat = i + 1 := UInt8.toNat_ofNat_of_lt' hlt
    have hone : 1 ≤ UInt8.ofNat (i + 1) := by
      rw [UInt8.le_iff_toNat_le, htoNat]
      exact Nat.le_add_left 1 i
    rw [accounts_paginate hone, htoNat, Nat.add_sub_cancel]
  rw [firstPages, List.flatMap_congr hpage, ← List.map_flatMap, flatMap_windows]

theorem AccountsPage.refines_steps (accounts : List AccountEntry) (page limit : UInt8) :
    Refines (steps .ignored accounts page limit) (steps .enforced accounts page limit) :=
  (Refines.step _ _).bind fun _ => (Refines.step _ _).bind fun _ =>
    (Refines.step _ _).bind fun _ => (Refines.step _ _).bind fun _ => .pure _

theorem reached_lt (page limit : UInt8) :
    (page.toNat - 1) * limit.toNat + limit.toNat < Nat.pow 2 64 := by
  have hpage : page.toNat - 1 ≤ 255 := Nat.sub_le_of_le_add (Nat.le_of_lt page.toNat_lt)
  have hlimit : limit.toNat ≤ 255 := Nat.le_of_lt_succ limit.toNat_lt
  calc (page.toNat - 1) * limit.toNat + limit.toNat ≤ 255 * 255 + 255 :=
        Nat.add_le_add (Nat.mul_le_mul hpage hlimit) hlimit
    _ < Nat.pow 2 64 := by decide

theorem AccountsPage.checked?_eq (accounts : List AccountEntry) (page limit : UInt8) :
    checked? accounts page limit = some (paginate accounts page limit) := by
  let skipped := ((max page 1).toNat - 1) * limit.toNat
  let start := min skipped accounts.length
  let stop := min (start + limit.toNat) accounts.length
  -- The list may have any length, so the places are bounded by the two bytes and not by the list.
  have hreached : skipped + limit.toNat < Nat.pow 2 64 := reached_lt (max page 1) limit
  have hskipped : skipped < Nat.pow 2 64 := by omega
  have hplaces : start + limit.toNat < Nat.pow 2 64 := by omega
  have hslice : start ≤ stop ∧ stop ≤ accounts.length := by omega
  obtain ⟨before, hbefore⟩ := exists_toNat_eq_succ (one_le_max_one page)
  have hpred : RangeCheck.enforced.pred (max page 1).toNat = some ((max page 1).toNat - 1) :=
    RangeCheck.enforced_pred_eq_some_iff.mpr (by omega)
  apply (refines_steps accounts page limit).eq_some
  apply isSome_bind hpred
  apply isSome_bind (RangeCheck.enforced_places_eq_some_iff.mpr ⟨hskipped, rfl⟩)
  apply isSome_bind (RangeCheck.enforced_places_eq_some_iff.mpr ⟨hplaces, rfl⟩)
  exact isSome_bind (RangeCheck.enforced_slice_eq_some_iff.mpr ⟨hslice, rfl⟩) rfl

theorem paginate_max_one (page : UInt8) :
    paginate accounts (max page 1) limit = paginate accounts page limit := by
  simp only [paginate, AccountsPage.steps, max_one_of_le (one_le_max_one page)]

theorem paginate_limit_zero (accounts : List AccountEntry) (page : UInt8) :
    (paginate accounts page 0).accounts = [] ∧
      (paginate accounts page 0).hasNextPage = false := by
  constructor
  · rw [accounts_paginate_max]
    exact congrArg _ List.take_zero
  · rw [← Bool.not_eq_true, hasNextPage_paginate_max_iff]
    rintro ⟨hpos, -⟩
    exact Nat.lt_irrefl 0 hpos

end Pages

/-- A page shows the address and the flags of the accounts at its places and of no others, and says
whether accounts follow.  The first pages together show the start of the list, all of it if no page
follows, and then later pages are empty.  Page zero is page one, pages without places are empty, and
no step leaves its range. -/
theorem pages_cover (accounts : List AccountEntry) (page limit : UInt8) :
    (1 ≤ page → 1 ≤ limit →
      (∀ i v, (paginate accounts page limit).accounts[i]? = some v ↔
        (page.toNat - 1) * limit.toNat + i < min (page.toNat * limit.toNat) accounts.length ∧
          ∃ a, accounts[(page.toNat - 1) * limit.toNat + i]? = some a ∧
            v = ⟨a.address.toText, a.isWritable, a.isSigner⟩) ∧
      ((paginate accounts page limit).hasNextPage = true ↔
        page.toNat * limit.toNat < accounts.length) ∧
      ((paginate accounts page limit).hasNextPage = false →
        firstPages accounts limit page.toNat =
          accounts.map (fun a => ⟨a.address.toText, a.isWritable, a.isSigner⟩) ∧
          ∀ later, page < later → (paginate accounts later limit).accounts = [])) ∧
      (∀ k ≤ 255, firstPages accounts limit k =
        (accounts.take (min (k * limit.toNat) accounts.length)).map
          fun a => ⟨a.address.toText, a.isWritable, a.isSigner⟩) ∧
      paginate accounts 0 limit = paginate accounts 1 limit ∧
      ((paginate accounts page 0).accounts = [] ∧
        (paginate accounts page 0).hasNextPage = false) ∧
      AccountsPage.checked? accounts page limit = some (paginate accounts page limit) := by
  refine ⟨?_, ?_, ?_, paginate_limit_zero accounts page,
    AccountsPage.checked?_eq accounts page limit⟩
  · intro hpage hlimit
    refine ⟨fun i v => getElem?_paginate_eq_some_iff hpage,
      hasNextPage_paginate_iff hpage hlimit, ?_⟩
    intro hlast
    constructor
    · have hcovered := length_le_of_not_hasNextPage hpage hlimit hlast
      rw [firstPages_eq (Nat.le_of_lt_succ page.toNat_lt), List.take_of_length_le hcovered]
      rfl
    · exact fun later hlater => accounts_eq_nil_of_later hpage hlimit hlast hlater
  · intro k hk
    rw [firstPages_eq hk]
    congr 1
    rw [List.take_eq_take_iff]
    omega
  · exact (paginate_max_one 0).symm

/-- Five accounts on pages of two: the third page is the last, and with one more it is full. -/
theorem pages_cover_last_page :
    let key (n : UInt8) : Address := ⟨List.replicate 31 0 ++ [n], rfl⟩
    let five : List AccountEntry := [⟨key 1, true, true⟩, ⟨key 2, false, false⟩,
      ⟨key 3, true, false⟩, ⟨key 4, true, false⟩, ⟨key 5, true, false⟩]
    let six := five ++ [⟨key 6, false, false⟩]
    (paginate five 1 2).accounts[0]? = some ⟨"11111111111111111111111111111112", true, true⟩ ∧
      (paginate five 1 2).accounts[1]? = some ⟨"11111111111111111111111111111113", false, false⟩ ∧
      (paginate five 2 2).hasNextPage = true ∧
      firstPages five 2 2 =
        [⟨(key 1).toText, true, true⟩, ⟨(key 2).toText, false, false⟩,
          ⟨(key 3).toText, true, false⟩, ⟨(key 4).toText, true, false⟩] ∧
      (paginate five 3 2).accounts[0]? = some ⟨"11111111111111111111111111111116", true, false⟩ ∧
      (paginate five 3 2).accounts[1]? = none ∧
      firstPages five 2 3 = five.map (fun a => ⟨a.address.toText, a.isWritable, a.isSigner⟩) ∧
      (paginate five 4 2).accounts = [] ∧ (paginate five 255 2).accounts = [] ∧
      firstPages six 2 3 = six.map (fun a => ⟨a.address.toText, a.isWritable, a.isSigner⟩) ∧
      (paginate six 4 2).accounts = [] := by
  intro key five six
  obtain ⟨hfirst, -⟩ := pages_cover five 1 2
  obtain ⟨hsecond, hstart, -⟩ := pages_cover five 2 2
  obtain ⟨hthird, -⟩ := pages_cover five 3 2
  obtain ⟨hfull, -⟩ := pages_cover six 3 2
  obtain ⟨hopening, -⟩ := hfirst (by decide) (by decide)
  obtain ⟨-, hnext, -⟩ := hsecond (by decide) (by decide)
  obtain ⟨hshown, hend, hlast⟩ := hthird (by decide) (by decide)
  obtain ⟨-, hend', hlast'⟩ := hfull (by decide) (by decide)
  obtain ⟨hfive, hempty⟩ := hlast (Bool.eq_false_iff.mpr (mt hend.mp (by decide)))
  obtain ⟨hsix, hempty'⟩ := hlast' (Bool.eq_false_iff.mpr (mt hend'.mp (by decide)))
  have htext1 : (key 1).toText = "11111111111111111111111111111112" := by decide +kernel
  have htext2 : (key 2).toText = "11111111111111111111111111111113" := by decide +kernel
  have htext5 : (key 5).toText = "11111111111111111111111111111116" := by decide +kernel
  refine ⟨(hopening 0 _).mpr ⟨by decide, _, rfl, htext1 ▸ rfl⟩,
    (hopening 1 _).mpr ⟨by decide, _, rfl, htext2 ▸ rfl⟩, hnext.mpr (by decide),
    hstart 2 (by decide), (hshown 0 _).mpr ⟨by decide, _, rfl, htext5 ▸ rfl⟩, ?_, hfive,
    hempty 4 (by decide), hempty 255 (by decide), hsix, hempty' 4 (by decide)⟩
  cases hnone : (paginate five 3 2).accounts[1]? with
  | none => rfl
  | some v =>
      obtain ⟨hlt, -⟩ := (hshown 1 v).mp hnone
      exact absurd hlt (by decide)

end CrossSwap
