import CrossSwap.Proofs.Curve.Point
import CrossSwap.Proofs.Ledger.Derivation

/-!
# What a derivation gives

The seeds are checked first, their number before their lengths.  The search then stops at the largest
bump whose hash is no point of the curve.  Seeds with other names give the same address.
-/

namespace CrossSwap

open Edwards (isPoint_iff StandsForPoint)

namespace Derived

variable {program : Address} {d d' : Derived}

theorem ext (haddress : d.address = d'.address) (hbump : d.bump = d'.bump) : d = d' := by
  cases d
  cases d'
  cases haddress
  cases hbump
  rfl

/-! ## The search -/

section Search

variable {seeds : List Bytes} {bump bump' : UInt8} {n : Nat}

/-- The hash for the bump is no point, and those for all larger bumps are. -/
def IsHighestBump (program : Address) (seeds : List Bytes) (bump : UInt8) : Prop :=
  0 < bump ∧ ¬StandsForPoint (candidate program seeds bump).toBytes ∧
    ∀ higher, bump < higher → StandsForPoint (candidate program seeds higher).toBytes

theorem IsHighestBump.unique (h : IsHighestBump program seeds bump)
    (h' : IsHighestBump program seeds bump') : bump = bump' := by
  obtain ⟨-, hnot, hhigher⟩ := h
  obtain ⟨-, hnot', hhigher'⟩ := h'
  rcases Nat.lt_trichotomy bump.toNat bump'.toNat with hlt | heq | hlt
  · exact absurd (hhigher bump' hlt) hnot'
  · exact UInt8.toNat_inj.mp heq
  · exact absurd (hhigher' bump hlt) hnot

theorem toNat_ofNat_succ (hn : n + 1 ≤ 255) : (UInt8.ofNat (n + 1)).toNat = n + 1 :=
  UInt8.toNat_ofNat_of_lt' (Nat.lt_succ_of_le hn)

theorem le_or_eq_of_le_succ (hn : n + 1 ≤ 255) (h : bump.toNat ≤ n + 1) :
    bump.toNat ≤ n ∨ bump = UInt8.ofNat (n + 1) := by
  rcases Nat.le_succ_iff.mp h with hle | heq
  · exact .inl hle
  · exact .inr (UInt8.toNat_inj.mp (heq.trans (toNat_ofNat_succ hn).symm))

theorem of_search (hn : n ≤ 255) (h : search program seeds n = some d) :
    0 < d.bump ∧ ¬StandsForPoint (candidate program seeds d.bump).toBytes ∧
      (∀ higher : UInt8, d.bump < higher → higher.toNat ≤ n →
        StandsForPoint (candidate program seeds higher).toBytes) ∧
      d.address = Address.ofDigest (candidate program seeds d.bump) := by
  induction n with
  | zero => cases h
  | succ n ih =>
      rw [search] at h
      split at h
      · rename_i hpoint
        rw [isPoint_iff] at hpoint
        obtain ⟨hpos, hnot, hhigher, haddress⟩ := ih (Nat.le_of_succ_le hn) h
        refine ⟨hpos, hnot, ?_, haddress⟩
        intro higher hlt hle
        rcases le_or_eq_of_le_succ hn hle with hle | rfl
        · exact hhigher higher hlt hle
        · exact hpoint
      · rename_i hpoint
        rw [isPoint_iff] at hpoint
        cases h
        have htop := toNat_ofNat_succ hn
        refine ⟨?_, hpoint, ?_, rfl⟩
        · rw [UInt8.lt_iff_toNat_lt, htop]
          exact Nat.succ_pos n
        · intro higher hlt hle
          rw [UInt8.lt_iff_toNat_lt, htop] at hlt
          exact absurd hle (Nat.not_le.mpr hlt)

theorem search_eq_none_iff (hn : n ≤ 255) :
    search program seeds n = none ↔
      ∀ bump : UInt8, 0 < bump → bump.toNat ≤ n →
        StandsForPoint (candidate program seeds bump).toBytes := by
  induction n with
  | zero =>
      refine iff_of_true rfl ?_
      intro bump hpos hle
      exact absurd hle (Nat.not_le.mpr hpos)
  | succ n ih =>
      have htop := toNat_ofNat_succ hn
      rw [search]
      split
      · rename_i hpoint
        rw [isPoint_iff] at hpoint
        rw [ih (Nat.le_of_succ_le hn)]
        constructor
        · intro h bump hpos hle
          rcases le_or_eq_of_le_succ hn hle with hle | rfl
          · exact h bump hpos hle
          · exact hpoint
        · exact fun h bump hpos hle => h bump hpos (Nat.le_succ_of_le hle)
      · rename_i hpoint
        rw [isPoint_iff] at hpoint
        refine iff_of_false nofun ?_
        intro h
        apply hpoint
        apply h
        · rw [UInt8.lt_iff_toNat_lt, htop]
          exact Nat.succ_pos n
        · exact Nat.le_of_eq htop

theorem search_eq_some_iff :
    search program seeds 255 = some d ↔
      IsHighestBump program seeds d.bump ∧
        d.address = Address.ofDigest (candidate program seeds d.bump) := by
  have hof {d' : Derived} (h : search program seeds 255 = some d') :
      IsHighestBump program seeds d'.bump ∧
        d'.address = Address.ofDigest (candidate program seeds d'.bump) := by
    obtain ⟨hpos, hnot, hhigher, haddress⟩ := of_search (Nat.le_refl 255) h
    refine ⟨⟨hpos, hnot, ?_⟩, haddress⟩
    exact fun higher hlt => hhigher higher hlt (Nat.le_of_lt_succ higher.toNat_lt)
  constructor
  · exact hof
  · rintro ⟨hhighest, haddress⟩
    cases hsearch : search program seeds 255 with
    | none =>
        have hpoint := (search_eq_none_iff (Nat.le_refl 255)).mp hsearch d.bump hhighest.1
          (Nat.le_of_lt_succ d.bump.toNat_lt)
        exact absurd hpoint hhighest.2.1
    | some d' =>
        obtain ⟨hhighest', haddress'⟩ := hof hsearch
        have hbump : d'.bump = d.bump := hhighest'.unique hhighest
        have haddresses : d'.address = d.address := by rw [haddress', haddress, hbump]
        rw [ext haddresses hbump]

theorem exists_isHighestBump_iff :
    (∃ bump, IsHighestBump program seeds bump) ↔
      ∃ bump, 0 < bump ∧ ¬StandsForPoint (candidate program seeds bump).toBytes := by
  constructor
  · rintro ⟨bump, hpos, hnot, -⟩
    exact ⟨bump, hpos, hnot⟩
  · rintro ⟨bump, hpos, hnot⟩
    cases hsearch : search program seeds 255 with
    | none =>
        exact absurd ((search_eq_none_iff (Nat.le_refl 255)).mp hsearch bump hpos
          (Nat.le_of_lt_succ bump.toNat_lt)) hnot
    | some d => exact ⟨d.bump, (search_eq_some_iff.mp hsearch).1⟩

end Search

/-! ## Seeds and their names -/

/-- The seed at place `i` is too long, and no seed before it is. -/
def IsFirstTooLong (seeds : List Bytes) (i : Nat) (s : Bytes) : Prop :=
  seeds[i]? = some s ∧ maxSeedLength < s.length ∧
    ∀ j < i, ∀ t, seeds[j]? = some t → t.length ≤ maxSeedLength

theorem isFirstTooLong_second {s t : Bytes} (hshort : s.length ≤ maxSeedLength)
    (hlong : maxSeedLength < t.length) (rest : List Bytes) :
    IsFirstTooLong (s :: t :: rest) 1 t := by
  refine ⟨rfl, hlong, ?_⟩
  intro j hj u hu
  obtain rfl : j = 0 := Nat.lt_one_iff.mp hj
  cases hu
  exact hshort

variable {seeds : List Seed} {seed : Seed} {e : DerivationError} {name : String} {n : Nat}

theorem find?_long_eq_some_iff :
    (seeds.find? fun s => maxSeedLength < s.bytes.length) = some seed ↔
      ∃ i, seeds[i]? = some seed ∧ IsFirstTooLong (seeds.map Seed.bytes) i seed.bytes := by
  rw [List.find?_eq_some_iff_getElem]
  constructor
  · rintro ⟨hlong, i, hi, rfl, hbefore⟩
    have hseed : seeds[i]? = some seeds[i] := List.getElem?_eq_getElem hi
    refine ⟨i, hseed, ?_, of_decide_eq_true hlong, ?_⟩
    · rw [List.getElem?_map, hseed, Option.map_some]
    · intro j hj t ht
      rw [List.getElem?_map] at ht
      obtain ⟨u, hu, rfl⟩ := Option.map_eq_some_iff.mp ht
      obtain ⟨hlt, rfl⟩ := List.getElem?_eq_some_iff.mp hu
      simpa using hbefore j hj
  · rintro ⟨i, hseed, -, hlong, hbefore⟩
    obtain ⟨hi, rfl⟩ := List.getElem?_eq_some_iff.mp hseed
    refine ⟨decide_eq_true hlong, i, hi, rfl, ?_⟩
    intro j hj
    have hshort := hbefore j hj seeds[j].bytes (by simp [Nat.lt_trans hj hi])
    simpa using hshort

theorem wellSized_iff :
    WellSized seeds ↔ (seeds.map Seed.bytes).length < maxSeeds ∧
      ∀ s ∈ seeds.map Seed.bytes, s.length ≤ maxSeedLength := by
  rw [WellSized, List.length_map, List.forall_mem_map]

theorem derive_of_tooMany (h : maxSeeds ≤ seeds.length) :
    derive program seeds = .error (.tooManySeeds seeds.length) :=
  if_pos h

theorem derive_of_firstTooLong {i : Nat} (hfew : seeds.length < maxSeeds)
    (hseed : seeds[i]? = some seed)
    (hfirst : IsFirstTooLong (seeds.map Seed.bytes) i seed.bytes) :
    derive program seeds = .error (.seedTooLong seed.name seed.bytes.length) := by
  rw [derive, if_neg (Nat.not_le.mpr hfew), find?_long_eq_some_iff.mpr ⟨i, hseed, hfirst⟩]

/-- What a derivation gives, in the order in which its seeds are checked. -/
inductive Gives (program : Address) (seeds : List Seed) : Except DerivationError Derived → Prop
  | tooMany (h : maxSeeds ≤ seeds.length) : Gives program seeds (.error (.tooManySeeds seeds.length))
  | tooLong {i : Nat} {seed : Seed} (hfew : seeds.length < maxSeeds)
      (hseed : seeds[i]? = some seed)
      (hfirst : IsFirstTooLong (seeds.map Seed.bytes) i seed.bytes) :
      Gives program seeds (.error (.seedTooLong seed.name seed.bytes.length))
  | noBump (hsized : WellSized seeds) (h : search program (seeds.map Seed.bytes) 255 = none) :
      Gives program seeds (.error .noViableBump)
  | found {d : Derived} (hsized : WellSized seeds)
      (h : search program (seeds.map Seed.bytes) 255 = some d) : Gives program seeds (.ok d)

theorem derive_eq_iff {x : Except DerivationError Derived} :
    derive program seeds = x ↔ Gives program seeds x := by
  constructor
  · rintro rfl
    by_cases hmany : maxSeeds ≤ seeds.length
    · rw [derive_of_tooMany hmany]
      exact .tooMany hmany
    have hfew : seeds.length < maxSeeds := Nat.not_le.mp hmany
    cases hlong : seeds.find? fun s => maxSeedLength < s.bytes.length with
    | some seed =>
        obtain ⟨i, hseed, hfirst⟩ := find?_long_eq_some_iff.mp hlong
        rw [derive_of_firstTooLong hfew hseed hfirst]
        exact .tooLong hfew hseed hfirst
    | none =>
        have hsized : WellSized seeds := ⟨hfew, find?_long_eq_none_iff.mp hlong⟩
        rw [derive_of_wellSized hsized]
        cases hsearch : search program (seeds.map Seed.bytes) 255 with
        | none => exact .noBump hsized hsearch
        | some d => exact .found hsized hsearch
  · intro h
    cases h with
    | tooMany h => exact derive_of_tooMany h
    | tooLong hfew hseed hfirst => exact derive_of_firstTooLong hfew hseed hfirst
    | noBump hsized h =>
        rw [derive_of_wellSized hsized, h]
        rfl
    | found hsized h =>
        rw [derive_of_wellSized hsized, h]
        rfl

theorem derive_eq_tooManySeeds_iff :
    derive program seeds = .error (.tooManySeeds n) ↔
      maxSeeds ≤ seeds.length ∧ n = seeds.length := by
  rw [derive_eq_iff]
  constructor
  · intro h
    cases h with
    | tooMany h => exact ⟨h, rfl⟩
  · rintro ⟨h, rfl⟩
    exact .tooMany h

theorem derive_eq_seedTooLong_iff :
    derive program seeds = .error (.seedTooLong name n) ↔
      seeds.length < maxSeeds ∧ ∃ i seed, seeds[i]? = some seed ∧
        IsFirstTooLong (seeds.map Seed.bytes) i seed.bytes ∧ name = seed.name ∧
        n = seed.bytes.length := by
  rw [derive_eq_iff]
  constructor
  · intro h
    cases h with
    | tooLong hfew hseed hfirst => exact ⟨hfew, _, _, hseed, hfirst, rfl, rfl⟩
  · rintro ⟨hfew, i, seed, hseed, hfirst, rfl, rfl⟩
    exact .tooLong hfew hseed hfirst

/-! ## Names of seeds -/

theorem map_bytes_numbered (raw : List Bytes) : (numbered raw).map Seed.bytes = raw := by
  rw [numbered, List.map_map]
  exact List.zipIdx_map_fst 0 raw

theorem getElem?_numbered (raw : List Bytes) (i : Nat) :
    (numbered raw)[i]? = raw[i]?.map fun s => ⟨s!"#{i}", s⟩ := by
  rw [numbered, List.getElem?_map, List.getElem?_zipIdx, Option.map_map, Nat.zero_add]
  rfl

theorem length_numbered (raw : List Bytes) : (numbered raw).length = raw.length := by
  rw [numbered, List.length_map, List.length_zipIdx]

theorem derive_numbered_eq_seedTooLong_iff {raw : List Bytes} :
    derive program (numbered raw) = .error (.seedTooLong name n) ↔
      raw.length < maxSeeds ∧
        ∃ i s, IsFirstTooLong raw i s ∧ name = s!"#{i}" ∧ n = s.length := by
  rw [derive_eq_seedTooLong_iff, length_numbered, map_bytes_numbered]
  refine and_congr_right fun hfew => ?_
  constructor
  · rintro ⟨i, seed, hseed, hfirst, rfl, rfl⟩
    rw [getElem?_numbered] at hseed
    obtain ⟨s, -, rfl⟩ := Option.map_eq_some_iff.mp hseed
    exact ⟨i, s, hfirst, rfl, rfl⟩
  · rintro ⟨i, s, hfirst, rfl, rfl⟩
    refine ⟨i, ⟨s!"#{i}", s⟩, ?_, hfirst, rfl, rfl⟩
    rw [getElem?_numbered, hfirst.1, Option.map_some]

theorem derive_numbered_eq_ok_iff {raw : List Bytes} :
    derive program (numbered raw) = .ok d ↔
      raw.length < maxSeeds ∧ (∀ s ∈ raw, s.length ≤ maxSeedLength) ∧
        IsHighestBump program raw d.bump ∧
        d.address = Address.ofDigest (candidate program raw d.bump) := by
  rw [derive_eq_ok_iff, wellSized_iff, map_bytes_numbered, search_eq_some_iff, and_assoc]

end Derived

/-- The error without the name of the seed. -/
def DerivationError.unnamed : DerivationError → DerivationError
  | .seedTooLong _ length => .seedTooLong "" length
  | e => e

open Derived
open DerivationError (unnamed)

/-- The names of the seeds show only in errors. -/
theorem mapError_unnamed_derive {program : Address} {seeds seeds' : List Seed}
    (h : seeds.map Seed.bytes = seeds'.map Seed.bytes) :
    (derive program seeds).mapError unnamed = (derive program seeds').mapError unnamed := by
  have hgives : Gives program seeds (derive program seeds) := derive_eq_iff.mp rfl
  have hlength : seeds.length = seeds'.length := by
    rw [← List.length_map (f := Seed.bytes), h, List.length_map]
  -- Which outcome it is depends on the seeds only through their number and their bytes.
  generalize derive program seeds = x at hgives ⊢
  cases hgives with
  | tooMany hmany =>
      rw [hlength] at hmany ⊢
      rw [derive_of_tooMany hmany]
  | tooLong hfew hseed hfirst =>
      have hsame := hfirst.1
      rw [h, List.getElem?_map] at hsame
      obtain ⟨seed', hseed', hbytes⟩ := Option.map_eq_some_iff.mp hsame
      rw [h, ← hbytes] at hfirst
      rw [derive_of_firstTooLong (hlength ▸ hfew) hseed' hfirst, hbytes]
      rfl
  | noBump hsized hnone =>
      rw [wellSized_iff, h, ← wellSized_iff] at hsized
      rw [h] at hnone
      rw [derive_eq_iff.mpr (.noBump hsized hnone)]
  | found hsized hsome =>
      rw [wellSized_iff, h, ← wellSized_iff] at hsized
      rw [h] at hsome
      rw [derive_eq_iff.mpr (.found hsized hsome)]

theorem derive_eq_derive_numbered {program : Address} {seeds : List Seed}
    (hsized : WellSized seeds) :
    derive program seeds = derive program (numbered (seeds.map Seed.bytes)) := by
  have hnumbered : WellSized (numbered (seeds.map Seed.bytes)) := by
    rw [wellSized_iff, map_bytes_numbered, ← wellSized_iff]
    exact hsized
  rw [derive_of_wellSized hsized, derive_of_wellSized hnumbered, map_bytes_numbered]

theorem associatedToken_eq_map (owner mint : Address) :
    associatedToken owner mint =
      (derive Address.associatedTokenProgram
        (numbered [owner.toBytes, Address.tokenProgram.toBytes, mint.toBytes])).map
          Derived.address := by
  have hderive : derive Address.associatedTokenProgram (walletSeeds owner mint) = _ :=
    derive_eq_derive_numbered (wellSized_walletSeeds owner mint)
  calc associatedToken owner mint =
      (derive Address.associatedTokenProgram (walletSeeds owner mint)).map Derived.address := rfl
    _ = _ := by
      rw [hderive]
      rfl

/-- If only one of the seeds may be too long, its name shows in the error. -/
theorem derive_eq_seedTooLong_iff_of_sized (program : Address) (front : List Seed) (back : List Seed)
    {seed : Seed} {name : String} {n : Nat} (hfew : (front ++ seed :: back).length < maxSeeds)
    (hfront : ∀ t ∈ front, t.bytes.length ≤ maxSeedLength)
    (hback : ∀ t ∈ back, t.bytes.length ≤ maxSeedLength) :
    derive program (front ++ seed :: back) = .error (.seedTooLong name n) ↔
      maxSeedLength < seed.bytes.length ∧ name = seed.name ∧ n = seed.bytes.length := by
  by_cases hlong : maxSeedLength < seed.bytes.length
  · rw [derive_of_long front hfew hfront hlong]
    simp [hlong, eq_comm]
  · have hsized : ∀ t ∈ front ++ seed :: back, t.bytes.length ≤ maxSeedLength := by
      rw [List.forall_mem_append, List.forall_mem_cons]
      exact ⟨hfront, Nat.not_lt.mp hlong, hback⟩
    refine iff_of_false ?_ fun h => hlong h.1
    rw [derive_of_wellSized ⟨hfew, hsized⟩]
    cases search program ((front ++ seed :: back).map Seed.bytes) 255 with
    | none => simp
    | some d => simp

namespace Program

variable {program : Program} {creator : Address} {dstNid srcNid : String}
  {amount toAmount connSn : Word128} {name : String} {n : Nat}

theorem derive_order_eq_seedTooLong_iff :
    program.derive (.order creator dstNid amount toAmount) = .error (.seedTooLong name n) ↔
      32 < (Text.toBytes dstNid).length ∧ name = "dst_nid" ∧ n = (Text.toBytes dstNid).length :=
  derive_eq_seedTooLong_iff_of_sized program.address [⟨"creator", creator.toBytes⟩]
    [⟨"amount", seedNumber amount⟩, ⟨"to_amount", seedNumber toAmount⟩] (by simp [maxSeeds])
    (by simp [creator.length_toBytes, maxSeedLength]) (by simp [seedNumber, maxSeedLength])

theorem derive_receipt_eq_seedTooLong_iff :
    program.derive (.receipt srcNid connSn) = .error (.seedTooLong name n) ↔
      32 < (Text.toBytes srcNid).length ∧ name = "src_nid" ∧ n = (Text.toBytes srcNid).length := by
  have hreceipt : (Text.toBytes "receipt").length = 7 := by decide
  exact derive_eq_seedTooLong_iff_of_sized program.address [⟨"receipt", Text.toBytes "receipt"⟩]
    [⟨"conn_sn", seedNumber connSn⟩] (by simp [maxSeeds]) (by simp [hreceipt, maxSeedLength])
    (by simp [seedNumber, maxSeedLength])

end Program

/-- Sixteen seeds or more are refused for their number, otherwise the first that is too long is
refused, and otherwise the address is the hash for the largest bump whose hash is no point of the
curve, if there is one.  Each account of the program, and each account of a token's owner, has the
address of its raw seeds.  Only the name of a network may be refused as a seed, under the name that
the seed has. -/
theorem derivation_outcome (program : Address) (raw : List Bytes) :
    (∀ n, derive program (numbered raw) = .error (.tooManySeeds n) ↔
      16 ≤ raw.length ∧ n = raw.length) ∧
    (∀ name n, derive program (numbered raw) = .error (.seedTooLong name n) ↔
      raw.length < 16 ∧ ∃ i s, IsFirstTooLong raw i s ∧ name = s!"#{i}" ∧ n = s.length) ∧
    (∀ d, derive program (numbered raw) = .ok d ↔
      raw.length < 16 ∧ (∀ s ∈ raw, s.length ≤ 32) ∧ IsHighestBump program raw d.bump ∧
        d.address.toBytes = (Sha256.digest (raw.flatten ++ d.bump :: program.toBytes ++
          Text.toBytes "ProgramDerivedAddress")).toBytes) ∧
    (raw.length < 16 → (∀ s ∈ raw, s.length ≤ 32) →
      (∃ bump, 0 < bump ∧ ¬StandsForPoint (candidate program raw bump).toBytes) →
        ∃ d, derive program (numbered raw) = .ok d) ∧
    (∀ program : Program,
      program.derive .config = derive program.address (numbered [Text.toBytes "config"]) ∧
      program.derive .vaultNative =
        derive program.address (numbered [Text.toBytes "vault_native"]) ∧
      (∀ mint, program.derive (.vaultToken mint) =
        derive program.address (numbered [Text.toBytes "vault_token", mint.toBytes])) ∧
      (∀ hash, program.derive (.orderFinished hash) =
        derive program.address (numbered [hash.toBytes])) ∧
      (∀ creator dstNid amount toAmount,
        (program.derive (.order creator dstNid amount toAmount)).mapError unnamed =
          (derive program.address (numbered [creator.toBytes, Text.toBytes dstNid,
            Bytes.ofNatBE 16 amount.toNat, Bytes.ofNatBE 16 toAmount.toNat])).mapError unnamed ∧
        ∀ name n,
          program.derive (.order creator dstNid amount toAmount) = .error (.seedTooLong name n) ↔
            32 < (Text.toBytes dstNid).length ∧ name = "dst_nid" ∧
              n = (Text.toBytes dstNid).length) ∧
      ∀ srcNid connSn,
        (program.derive (.receipt srcNid connSn)).mapError unnamed =
          (derive program.address (numbered [Text.toBytes "receipt", Text.toBytes srcNid,
            Bytes.ofNatBE 16 connSn.toNat])).mapError unnamed ∧
        ∀ name n, program.derive (.receipt srcNid connSn) = .error (.seedTooLong name n) ↔
          32 < (Text.toBytes srcNid).length ∧ name = "src_nid" ∧
            n = (Text.toBytes srcNid).length) ∧
    ∀ owner mint, associatedToken owner mint =
      (derive Address.associatedTokenProgram
        (numbered [owner.toBytes, Address.tokenProgram.toBytes, mint.toBytes])).map
          Derived.address := by
  refine ⟨?_, ?_, ?_, ?_, ?_, associatedToken_eq_map⟩
  · intro n
    rw [derive_eq_tooManySeeds_iff, length_numbered]
    rfl
  · exact fun name n => derive_numbered_eq_seedTooLong_iff
  · intro d
    rw [derive_numbered_eq_ok_iff]
    refine and_congr_right fun _ => and_congr_right fun _ => and_congr_right fun _ => ?_
    exact Address.ext_iff
  · intro hfew hshort hviable
    obtain ⟨bump, hhighest⟩ := exists_isHighestBump_iff.mpr hviable
    exact ⟨⟨Address.ofDigest (candidate program raw bump), bump⟩,
      derive_numbered_eq_ok_iff.mpr ⟨hfew, hshort, hhighest, rfl⟩⟩
  · intro program
    refine ⟨?_, ?_, ?_, ?_, ?_, ?_⟩
    · exact derive_eq_derive_numbered Purpose.wellSized_config
    · exact derive_eq_derive_numbered Purpose.wellSized_vaultNative
    · exact fun mint => derive_eq_derive_numbered (Purpose.wellSized_vaultToken mint)
    · exact fun hash => derive_eq_derive_numbered (Purpose.wellSized_orderFinished hash)
    · intro creator dstNid amount toAmount
      refine ⟨mapError_unnamed_derive (map_bytes_numbered _).symm, ?_⟩
      exact fun name n => Program.derive_order_eq_seedTooLong_iff
    · intro srcNid connSn
      refine ⟨mapError_unnamed_derive (map_bytes_numbered _).symm, ?_⟩
      exact fun name n => Program.derive_receipt_eq_seedTooLong_iff

/-- Two hashes are points before the vault of the system program is found.  Seeds that are too long or
too many are refused. -/
theorem derivation_outcome_third_bump :
    let raw := [Text.toBytes "vault_native"]
    let nid := "aaaaaaaaaaaaaaaaaaaaaaaaaaaaaaaaa"
    let receipt := [Text.toBytes "receipt", Text.toBytes nid, List.replicate 15 0 ++ [7]]
    let short := [Text.toBytes "receipt", Text.toBytes "a", List.replicate 15 0 ++ [7]]
    let long : List Bytes := [[], List.replicate 33 0, List.replicate 40 0]
    let program : Program := ⟨Address.systemProgram⟩
    (∃ d, derive Address.systemProgram (numbered raw) = .ok d ∧ d.bump = 253 ∧
      program.derive .vaultNative = .ok d) ∧
      derive Address.systemProgram (numbered long) = .error (.seedTooLong "#1" 33) ∧
      derive Address.systemProgram (numbered receipt) = .error (.seedTooLong "#1" 33) ∧
      program.derive (.receipt nid 7) = .error (.seedTooLong "src_nid" 33) ∧
      (program.derive (.receipt "a" 7)).mapError unnamed =
        (derive Address.systemProgram (numbered short)).mapError unnamed ∧
      derive Address.systemProgram (numbered (List.replicate 16 [])) =
        .error (.tooManySeeds 16) := by
  intro raw nid receipt short long program
  obtain ⟨-, -, hfound, hexists, hnamed, -⟩ := derivation_outcome Address.systemProgram raw
  obtain ⟨-, hlong, -⟩ := derivation_outcome Address.systemProgram long
  obtain ⟨-, htooLong, -⟩ := derivation_outcome Address.systemProgram receipt
  obtain ⟨hmany, -⟩ := derivation_outcome Address.systemProgram (List.replicate 16 [])
  obtain ⟨-, hvault, -, -, -, hreceipt⟩ := hnamed program
  obtain ⟨-, hrefused⟩ := hreceipt nid 7
  obtain ⟨hshort, -⟩ := hreceipt "a" 7
  have hnot : ¬StandsForPoint (candidate Address.systemProgram raw 253).toBytes := by
    rw [← isPoint_iff]
    decide +kernel
  have hpoints : StandsForPoint (candidate Address.systemProgram raw 254).toBytes ∧
      StandsForPoint (candidate Address.systemProgram raw 255).toBytes := by
    rw [← isPoint_iff, ← isPoint_iff]
    decide +kernel
  have hhighest : IsHighestBump Address.systemProgram raw 253 := by
    refine ⟨by decide, hnot, ?_⟩
    intro higher hlt
    have habove : 253 < higher.toNat := hlt
    have hbelow := higher.toNat_lt
    have htwo : higher.toNat = 254 ∨ higher.toNat = 255 := by omega
    rcases htwo with heq | heq
    · rw [show higher = 254 from UInt8.toNat_inj.mp heq]
      exact hpoints.1
    · rw [show higher = 255 from UInt8.toNat_inj.mp heq]
      exact hpoints.2
  refine ⟨?_, ?_, ?_, ?_, hshort, ?_⟩
  · obtain ⟨d, hd⟩ := hexists (by decide) (by decide) ⟨253, by decide, hnot⟩
    obtain ⟨-, -, hbump, -⟩ := (hfound d).mp hd
    exact ⟨d, hd, hbump.unique hhighest, hvault.trans hd⟩
  · exact (hlong "#1" 33).mpr
      ⟨by decide, 1, _, isFirstTooLong_second (by decide) (by decide) _, rfl, rfl⟩
  · exact (htooLong "#1" 33).mpr
      ⟨by decide, 1, _, isFirstTooLong_second (by decide) (by decide) _, rfl, rfl⟩
  · exact (hrefused "src_nid" 33).mpr ⟨by decide, rfl, rfl⟩
  · exact (hmany 16).mpr ⟨by decide, rfl⟩

end CrossSwap
