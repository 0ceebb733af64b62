import SketchLayout.Proofs.Capacity
import SketchLayout.Proofs.Fill

/-!
# Bounds on stretched tiles

A bound on the size of a tile says nothing about a number of tiles, and yet it settles one: an upper
bound asks for the fewest tiles that respect it, a lower bound alone for the most. The `tileShare` of
so many tiles shrinks as their number grows (`tileShare_lt`), so that a bound on the size is a bound on
the number, and the ceiling or the floor of the ratio is the best number there is (`isLeast_ceil`,
`isGreatest_floor`). What an axis takes is read off there, down to the extents that are too short for
any tile. Of two bounds the upper one decides alone; that it respects the lower one as well, whenever any
number of tiles does, is `tiles_land_between`.
-/

namespace SketchLayout

/-! ## The share of a tile -/

section
variable {extent gap bound : Rat} {n : Nat}

/-- More tiles are smaller ones. -/
theorem tileShare_lt (hpos : 0 < extent + gap) {m : Nat} (hm : 1 ≤ m) (hmn : m < n) :
    tileShare extent gap n < tileShare extent gap m := by
  have hm' : (0 : Rat) < m := by exact_mod_cast hm
  have hmn' : (m : Rat) < n := by exact_mod_cast hmn
  have hdiv : (extent + gap) / n < (extent + gap) / m := div_lt_div_of_pos_left hpos hm' hmn'
  unfold tileShare
  linarith

/-- An extent of no length leaves nothing for a tile. -/
theorem tileShare_nonpos (hextent : extent ≤ 0) (hgap : 0 ≤ gap) (hn : 1 ≤ n) : tileShare extent gap n ≤ 0 := by
  have hn' : (1 : Rat) ≤ n := by exact_mod_cast hn
  have hle : extent + gap ≤ gap * n := by
    have hgaps : gap ≤ gap * n := le_mul_of_one_le_right hgap hn'
    linarith
  have hdiv : (extent + gap) / n ≤ gap := (div_le_iff₀ (by linarith)).2 hle
  unfold tileShare
  linarith

/-- Tiles are no longer than a bound when there are at least as many as the ratio. -/
theorem tileShare_le_iff (hpos : 0 < bound + gap) (hn : 1 ≤ n) :
    tileShare extent gap n ≤ bound ↔ (extent + gap) / (bound + gap) ≤ n := by
  have hn' : (0 : Rat) < n := by exact_mod_cast hn
  rw [tileShare, sub_le_iff_le_add, div_le_iff₀ hn', div_le_iff₀ hpos, mul_comm]

/-- Tiles are no shorter than a bound when as many of that size fit. -/
theorem le_tileShare_iff_fits (hn : 1 ≤ n) : bound ≤ tileShare extent gap n ↔ Fits extent bound gap n := by
  have hn' : (0 : Rat) < n := by exact_mod_cast hn
  rw [tileShare, le_sub_iff_add_le, le_div_iff₀ hn', Fits]
  constructor <;> intro h <;> linarith

/-! ## The best count -/

/-- **The ceiling is the fewest** tiles no longer than a bound. -/
theorem isLeast_ceil (hpos : 0 < bound + gap) (hextent : 0 < extent + gap) :
    IsLeast {n : Nat | 1 ≤ n ∧ tileShare extent gap n ≤ bound} ((extent + gap) / (bound + gap)).ceil.toNat := by
  have hratio : 0 < (extent + gap) / (bound + gap) := div_pos hextent hpos
  generalize hq : ((extent + gap) / (bound + gap)).ceil = q
  have hq0 : 0 < q := by rw [← hq]; exact Rat.lt_ceil_iff.2 (by exact_mod_cast hratio)
  have hbound : ∀ n : Nat, 1 ≤ n → (tileShare extent gap n ≤ bound ↔ q ≤ n) := by
    intro n hn
    rw [tileShare_le_iff hpos hn, ← hq, Rat.ceil_le_iff, Int.cast_natCast]
  constructor
  · have hone : 1 ≤ q.toNat := by omega
    exact ⟨hone, (hbound _ hone).2 (by omega)⟩
  · rintro n ⟨hn, hle⟩
    have := (hbound n hn).1 hle
    omega

/-- **The floor is the most** tiles no shorter than a bound, as long as one of them has room. -/
theorem isGreatest_floor (hpos : 0 < bound) (hgap : 0 ≤ gap) (hroom : bound ≤ extent) :
    IsGreatest {n : Nat | 1 ≤ n ∧ bound ≤ tileShare extent gap n} ((extent + gap) / (bound + gap)).floor.toNat := by
  have hset : {n : Nat | 1 ≤ n ∧ bound ≤ tileShare extent gap n} = {n | 1 ≤ n ∧ Fits extent bound gap n} := by
    ext n
    exact and_congr_right fun hn => le_tileShare_iff_fits hn
  rw [hset]
  have hcapacity : IsCapacity extent bound gap ((extent + gap) / (bound + gap)).floor.toNat :=
    isCapacity_floor hpos hgap
  rcases hcapacity with hgreatest | ⟨-, hnone⟩
  · exact hgreatest
  · refine absurd ((le_tileShare_iff_fits le_rfl).1 ?_) (hnone 1 le_rfl)
    rwa [tileShare_one]

/-! ## Derived fills -/

namespace Fill

/-- Stretched tiles have their share. -/
theorem stretched_eq (hn : 1 ≤ n) : stretched n extent gap = ⟨n, tileShare extent gap n⟩ := by
  have hne : n ≠ 0 := by omega
  have htile : (stretched n extent gap).tile = tileShare extent gap n := stretched_tile hne extent gap
  have hcount : (stretched n extent gap).count = n := count_stretched n extent gap
  calc stretched n extent gap = ⟨(stretched n extent gap).count, (stretched n extent gap).tile⟩ := rfl
    _ = ⟨n, tileShare extent gap n⟩ := by rw [hcount, htile]

/-- No count derives no tiles. -/
theorem derived_zero (extent gap : Rat) : derived 0 extent gap = empty := by
  rcases derived_cases 0 extent gap with hempty | hstretched
  · exact hempty
  · rw [hstretched]
    rfl

/-- A derived count stands when the share of a tile is positive, and comes to nothing otherwise. -/
theorem derived_eq_ite (hgap : 0 ≤ gap) (hn : 1 ≤ n) :
    derived n extent gap = if 0 < tileShare extent gap n then ⟨n, tileShare extent gap n⟩ else empty := by
  unfold derived
  simp only [stretched_eq hn, le_rat, zero_rat]
  by_cases hshare : 0 < tileShare extent gap n
  · -- an extent without length has no positive share to give
    have hextent : ¬ extent ≤ 0 := fun hle => absurd (tileShare_nonpos hle hgap hn) (not_le.2 hshare)
    have hshare' : ¬ tileShare extent gap n ≤ 0 := not_le.2 hshare
    simp [hextent, hshare, hshare']
  · have hshare' : tileShare extent gap n ≤ 0 := not_lt.1 hshare
    simp [hshare, hshare']

end Fill

end

/-! ## The count of an axis -/

section
variable {a : Axis} {s : StretchAxis Rat} {extent high low : Rat}

/-- A derived count is refused above the limit. -/
theorem derived_of_count (n : Nat) (extent gap : Rat) :
    (do
      let count ← inferredCount a (some n)
      return Fill.derived count extent gap : Except (LayoutError Rat) (Fill Rat)) =
      if positionLimit < n then .error (.countTooLarge a) else .ok (.derived n extent gap) := by
  unfold inferredCount checkedCount
  by_cases hlimit : positionLimit < n
  · simp only [hlimit, if_true]
    rfl
  · simp only [hlimit, if_false]
    rfl

namespace StretchAxis

theorem fewest_eq_ite {n : Nat} (hn : ((extent + s.spacing) / (high + s.spacing)).ceil.toNat = n) :
    s.fewest a extent high =
      if positionLimit < n then .error (.countTooLarge a) else .ok (.derived n extent s.spacing) := by
  rw [← hn]
  exact derived_of_count _ extent s.spacing

theorem most_eq_ite {n : Nat} (hn : ((extent + s.spacing) / (low + s.spacing)).floor.toNat = n) :
    s.most a extent low =
      if positionLimit < n then .error (.countTooLarge a) else .ok (.derived n extent s.spacing) := by
  rw [← hn]
  exact derived_of_count _ extent s.spacing

/-- The upper of two bounds decides, unless the extent is below the lower one. -/
theorem fill_of_maxTile (hcount : s.count = none) (hhigh : s.maxTile = some high)
    (hlow : ∀ low ∈ s.minTile, low ≤ extent) : s.fill a extent = s.fewest a extent high := by
  unfold fill
  rw [hcount, hhigh]
  cases hmin : s.minTile with
  | none => rfl
  | some low =>
    have hroom : ¬ extent < low := not_lt.2 (hlow low hmin)
    simp only [lt_rat, hroom, decide_false, Bool.false_eq_true, if_false]

/-- A lower bound alone decides, unless the extent is below it. -/
theorem fill_of_minTile (hcount : s.count = none) (hhigh : s.maxTile = none) (hlow : s.minTile = some low) :
    s.fill a extent = if extent < low then .ok .empty else s.most a extent low := by
  unfold fill
  rw [hcount, hhigh, hlow]
  simp only [lt_rat, decide_eq_true_eq]

end StretchAxis

end

/-! ## An upper bound -/

/-- A count whose tiles respect an upper bound and have a positive share. -/
def Admits (extent gap high : Rat) (n : Nat) : Prop :=
  1 ≤ n ∧ 0 < tileShare extent gap n ∧ tileShare extent gap n ≤ high

section
variable {extent gap high : Rat} {n : Nat}

/-- If the fewest tiles within a bound have no room, no other number of them has. -/
theorem not_admits_of_share (hleast : IsLeast {n : Nat | 1 ≤ n ∧ tileShare extent gap n ≤ high} n)
    (hpos : 0 < extent + gap) (hshare : ¬ 0 < tileShare extent gap n) : ∀ m, ¬ Admits extent gap high m := by
  rintro m ⟨hm, hroom, hbound⟩
  have hle : n ≤ m := hleast.2 ⟨hm, hbound⟩
  rcases hle.eq_or_lt with rfl | hlt
  · exact hshare hroom
  · have hsmaller := tileShare_lt hpos hleast.1.1 hlt
    exact hshare (hroom.trans hsmaller)

/-- If the fewest tiles within a bound have room, they are the fewest that are admitted. -/
theorem isLeast_admits (hleast : IsLeast {n : Nat | 1 ≤ n ∧ tileShare extent gap n ≤ high} n)
    (hshare : 0 < tileShare extent gap n) : IsLeast {n | Admits extent gap high n} n :=
  ⟨⟨hleast.1.1, hshare, hleast.1.2⟩, fun _ hm => hleast.2 ⟨hm.1, hm.2.2⟩⟩

end

/-- The fewest tiles within an upper bound, each with its share; none when no count is admitted. -/
structure Fill.IsFewest (f : Fill Rat) (extent gap high : Rat) : Prop where
  bare_iff : f.count = 0 ↔ ∀ n, ¬ Admits extent gap high n
  least : f.count ≠ 0 → IsLeast {n | Admits extent gap high n} f.count
  share : f.count ≠ 0 → f.tile = tileShare extent gap f.count

namespace Fill
variable {extent gap high : Rat} {n : Nat}

theorem isFewest_empty (h : ∀ n, ¬ Admits extent gap high n) : empty.IsFewest extent gap high :=
  ⟨⟨fun _ => h, fun _ => rfl⟩, fun hne => absurd rfl hne, fun hne => absurd rfl hne⟩

theorem isFewest_derived (hleast : IsLeast {n : Nat | 1 ≤ n ∧ tileShare extent gap n ≤ high} n)
    (hgap : 0 ≤ gap) (hpos : 0 < extent + gap) : (derived n extent gap).IsFewest extent gap high := by
  have hone : 1 ≤ n := hleast.1.1
  rw [derived_eq_ite hgap hone]
  by_cases hshare : 0 < tileShare extent gap n
  · rw [if_pos hshare]
    have hadmits := isLeast_admits hleast hshare
    have hne : n ≠ 0 := by omega
    exact ⟨⟨fun hzero => absurd hzero hne, fun hnone => absurd hadmits.1 (hnone n)⟩, fun _ => hadmits, fun _ => rfl⟩
  · rw [if_neg hshare]
    exact isFewest_empty (not_admits_of_share hleast hpos hshare)

end Fill

/-- **An upper bound yields the fewest tiles.** Let an axis without a count bound its tiles by `high`, with
an extent that is not below its lower bound, if it has one. There is a least count whose tiles respect
`high`. Above the limit it is refused; within it the axis takes the least count whose tiles respect `high`
and have a positive share, each of them with that share, and takes no tiles just when there is no such
count. -/
theorem upper_bound_takes_fewest (a : Axis) (s : StretchAxis Rat) (extent high : Rat) (hextent : 0 ≤ extent)
    (hgap : 0 ≤ s.spacing) (hcount : s.count = none) (hhigh : s.maxTile = some high) (hpos : 0 < high)
    (hlow : ∀ low ∈ s.minTile, low ≤ extent) :
    ∃ n, IsLeast {n : Nat | 1 ≤ n ∧ tileShare extent s.spacing n ≤ high} n ∧
      if positionLimit < n then s.fill a extent = .error (.countTooLarge a)
      else ∃ f, s.fill a extent = .ok f ∧ f.IsFewest extent s.spacing high := by
  rw [StretchAxis.fill_of_maxTile hcount hhigh hlow]
  have hstep : 0 < high + s.spacing := by linarith
  rcases (add_nonneg hextent hgap).eq_or_lt with hzero | hsum
  · -- the ratio is zero: no tile is counted, while one of no length would respect the bound
    have hextent0 : extent = 0 := by linarith
    have hceil : ((extent + s.spacing) / (high + s.spacing)).ceil.toNat = 0 := by
      rw [← hzero, zero_div]
      rfl
    have hleast : IsLeast {n : Nat | 1 ≤ n ∧ tileShare extent s.spacing n ≤ high} 1 := by
      refine ⟨⟨le_rfl, ?_⟩, fun n hn => hn.1⟩
      rw [tileShare_one]
      linarith
    have hnone : ∀ n, ¬ Admits extent s.spacing high n := by
      rintro n ⟨hn, hroom, -⟩
      exact absurd (tileShare_nonpos hextent0.le hgap hn) (not_le.2 hroom)
    refine ⟨1, hleast, ?_⟩
    rw [if_neg (by decide), StretchAxis.fewest_eq_ite hceil, if_neg (by decide), Fill.derived_zero]
    exact ⟨_, rfl, Fill.isFewest_empty hnone⟩
  · have hleast := isLeast_ceil hstep hsum
    refine ⟨_, hleast, ?_⟩
    rw [StretchAxis.fewest_eq_ite rfl]
    split
    · rfl
    · exact ⟨_, rfl, Fill.isFewest_derived hleast hgap hsum⟩

/-- At most four units long, in ten with half a unit between neighbours. -/
def capped : StretchAxis Rat := { size := .size 10, minTile := some 1, maxTile := some 4, spacing := 1 / 2 }

theorem capped_tiles_fewest :
    ((0 : Rat) ≤ 10 ∧ 0 ≤ capped.spacing ∧ capped.count = none ∧ capped.maxTile = some 4 ∧ (0 : Rat) < 4 ∧
        ∀ low ∈ capped.minTile, low ≤ 10) ∧
      capped.fill .x 10 = .ok ⟨3, 3⟩ ∧
      ∃ n, IsLeast {n : Nat | 1 ≤ n ∧ tileShare 10 capped.spacing n ≤ 4} n ∧
        if positionLimit < n then capped.fill .x 10 = .error (.countTooLarge .x)
        else ∃ f, capped.fill .x 10 = .ok f ∧ f.IsFewest 10 capped.spacing 4 := by
  have hextent : (0 : Rat) ≤ 10 := by decide +kernel
  have hgap : 0 ≤ capped.spacing := by decide +kernel
  have hpos : (0 : Rat) < 4 := by decide +kernel
  have hlow : ∀ low ∈ capped.minTile, low ≤ 10 := by decide +kernel
  have hfill : capped.fill .x 10 = .ok ⟨3, 3⟩ := by decide +kernel
  exact ⟨⟨hextent, hgap, rfl, rfl, hpos, hlow⟩, hfill,
    upper_bound_takes_fewest .x capped 10 4 hextent hgap rfl rfl hpos hlow⟩

/-- Wide gaps leave no room for tiles as short as the bound asks for. -/
example : ({ size := .size 1, maxTile := some (1 / 4), spacing := 2 } : StretchAxis Rat).fill .y 1 = .ok .empty := by
  decide +kernel

/-! ## A lower bound -/

section
variable {extent gap low : Rat}

/-- An extent below a bound is below it for any number of tiles. -/
theorem lt_iff_forall_tileShare (hpos : 0 < low) (hgap : 0 ≤ gap) :
    extent < low ↔ ∀ n, 1 ≤ n → ¬ low ≤ tileShare extent gap n := by
  constructor
  · intro hroom n hn hshare
    have hn' : (1 : Rat) ≤ n := by exact_mod_cast hn
    have hfits : (n : Rat) * low + ((n : Rat) - 1) * gap ≤ extent := (le_tileShare_iff_fits hn).1 hshare
    have htiles : low ≤ n * low := le_mul_of_one_le_left hpos.le hn'
    have hgaps : 0 ≤ ((n : Rat) - 1) * gap := mul_nonneg (by linarith) hgap
    linarith
  · intro hnone
    have hone := hnone 1 le_rfl
    rwa [tileShare_one, not_le] at hone

end

/-- **A lower bound alone yields the most tiles.** An axis without a count whose only bound is that its
tiles are at least `low` takes no tiles just when its extent is below `low`, which is when no number of
tiles respects the bound. Otherwise there is a greatest number that does; it is refused above the limit,
and else the axis takes just so many tiles, each with its share. -/
theorem lower_bound_takes_most (a : Axis) (s : StretchAxis Rat) (extent low : Rat) (hgap : 0 ≤ s.spacing)
    (hcount : s.count = none) (hhigh : s.maxTile = none) (hlow : s.minTile = some low) (hpos : 0 < low) :
    ((∃ f, s.fill a extent = .ok f ∧ f.count = 0) ↔ extent < low) ∧
      (extent < low ↔ ∀ n, 1 ≤ n → ¬ low ≤ tileShare extent s.spacing n) ∧
      (low ≤ extent → ∃ n, IsGreatest {n : Nat | 1 ≤ n ∧ low ≤ tileShare extent s.spacing n} n ∧
        s.fill a extent =
          if positionLimit < n then .error (.countTooLarge a) else .ok ⟨n, tileShare extent s.spacing n⟩) := by
  have hfill : s.fill a extent = if extent < low then .ok .empty else s.most a extent low :=
    StretchAxis.fill_of_minTile hcount hhigh hlow
  have hmost : low ≤ extent → ∃ n, IsGreatest {n : Nat | 1 ≤ n ∧ low ≤ tileShare extent s.spacing n} n ∧
      s.fill a extent =
        if positionLimit < n then .error (.countTooLarge a) else .ok ⟨n, tileShare extent s.spacing n⟩ := by
    intro hroom
    have hgreatest := isGreatest_floor hpos hgap hroom
    obtain ⟨hone, hshare⟩ := hgreatest.1
    refine ⟨_, hgreatest, ?_⟩
    rw [hfill, if_neg (not_lt.2 hroom), StretchAxis.most_eq_ite rfl, Fill.derived_eq_ite hgap hone,
      if_pos (hpos.trans_le hshare)]
  refine ⟨⟨?_, ?_⟩, lt_iff_forall_tileShare hpos hgap, hmost⟩
  · rintro ⟨f, hf, hbare⟩
    by_contra hroom
    obtain ⟨n, hgreatest, hn⟩ := hmost (not_lt.1 hroom)
    rw [hn] at hf
    split at hf
    · cases hf
    · cases hf
      have hone : 1 ≤ n := hgreatest.1.1
      have hzero : n = 0 := hbare
      omega
  · intro hroom
    rw [hfill, if_pos hroom]
    exact ⟨_, rfl, rfl⟩

/-- At least three units long, with half a unit between neighbours. -/
def floored : StretchAxis Rat := { size := .size 10, minTile := some 3, spacing := 1 / 2 }

/-- Three tiles fill an extent that holds just three of the least size. -/
theorem floored_tiles_most :
    (0 ≤ floored.spacing ∧ floored.count = none ∧ floored.maxTile = none ∧ floored.minTile = some 3 ∧ (0 : Rat) < 3) ∧
      floored.fill .y 10 = .ok ⟨3, 3⟩ ∧
      ∃ n, IsGreatest {n : Nat | 1 ≤ n ∧ 3 ≤ tileShare 10 floored.spacing n} n ∧
        floored.fill .y 10 =
          if positionLimit < n then .error (.countTooLarge .y) else .ok ⟨n, tileShare 10 floored.spacing n⟩ := by
  have hgap : 0 ≤ floored.spacing := by decide +kernel
  have hpos : (0 : Rat) < 3 := by decide +kernel
  have hroom : (3 : Rat) ≤ 10 := by decide +kernel
  have hfill : floored.fill .y 10 = .ok ⟨3, 3⟩ := by decide +kernel
  obtain ⟨-, -, hmost⟩ := lower_bound_takes_most .y floored 10 3 hgap rfl rfl rfl hpos
  exact ⟨⟨hgap, rfl, rfl, rfl, hpos⟩, hfill, hmost hroom⟩

/-! ## Both bounds -/

/-- A count whose tiles respect a lower and an upper bound. -/
def Between (extent gap low high : Rat) (n : Nat) : Prop :=
  1 ≤ n ∧ low ≤ tileShare extent gap n ∧ tileShare extent gap n ≤ high

section
variable {extent gap low high : Rat} {n m : Nat}

/-- What some number of tiles respects, an extent is not below. -/
theorem Between.le_extent (h : Between extent gap low high m) (hpos : 0 < low) (hgap : 0 ≤ gap) : low ≤ extent := by
  by_contra hroom
  have hnone := (lt_iff_forall_tileShare hpos hgap).1 (not_le.1 hroom)
  exact hnone m h.1 h.2.1

/-- Nobody looks at the lower bound of the fewest tiles within the upper one. They are no smaller than any
tiles that respect both, so that they respect it as soon as any do. -/
theorem Between.of_isLeast (h : Between extent gap low high m)
    (hleast : IsLeast {n : Nat | 1 ≤ n ∧ tileShare extent gap n ≤ high} n) (hpos : 0 < extent + gap) :
    Between extent gap low high n := by
  obtain ⟨hm, hlow, hhigh⟩ := h
  obtain ⟨⟨hone, hbound⟩, hmin⟩ := hleast
  have hle : n ≤ m := hmin ⟨hm, hhigh⟩
  refine ⟨hone, ?_, hbound⟩
  rcases hle.eq_or_lt with rfl | hlt
  · exact hlow
  · have hsmaller : tileShare extent gap m < tileShare extent gap n := tileShare_lt hpos hone hlt
    exact hlow.trans hsmaller.le

theorem Between.isLeast (h : Between extent gap low high n)
    (hleast : IsLeast {n : Nat | 1 ≤ n ∧ tileShare extent gap n ≤ high} n) :
    IsLeast {n | Between extent gap low high n} n :=
  ⟨h, fun _ hm => hleast.2 ⟨hm.1, hm.2.2⟩⟩

end

/-- **Between two bounds the tiles land whenever they can.** An axis without a count bounds its tiles by
`low` and `high`. If some number of tiles within the limit respects both, the axis takes tiles that do, and
their number is the least that does. -/
theorem tiles_land_between (a : Axis) (s : StretchAxis Rat) (extent low high : Rat) (hgap : 0 ≤ s.spacing)
    (hcount : s.count = none) (hlow : s.minTile = some low) (hhigh : s.maxTile = some high) (hpos : 0 < low)
    (hsome : ∃ m ≤ positionLimit, Between extent s.spacing low high m) :
    ∃ f, s.fill a extent = .ok f ∧ f.count ≠ 0 ∧ (low ≤ f.tile ∧ f.tile ≤ high) ∧
      IsLeast {n | Between extent s.spacing low high n} f.count := by
  obtain ⟨m, hlimit, hm⟩ := hsome
  have hextent : low ≤ extent := hm.le_extent hpos hgap
  have hsum : 0 < extent + s.spacing := by linarith
  have hstep : 0 < high + s.spacing := by
    have horder : low ≤ high := hm.2.1.trans hm.2.2
    linarith
  have hroom : ∀ l ∈ s.minTile, l ≤ extent := by
    intro l hl
    rw [hlow, Option.mem_some_iff] at hl
    rwa [← hl]
  -- the count that the upper bound alone asks for
  have hleast := isLeast_ceil hstep hsum
  generalize hn : ((extent + s.spacing) / (high + s.spacing)).ceil.toNat = n at hleast
  have hbetween : Between extent s.spacing low high n := hm.of_isLeast hleast hsum
  have hnlimit : ¬ positionLimit < n := by
    have hle : n ≤ m := hleast.2 ⟨hm.1, hm.2.2⟩
    omega
  have hfill : s.fill a extent = .ok ⟨n, tileShare extent s.spacing n⟩ := by
    rw [StretchAxis.fill_of_maxTile hcount hhigh hroom, StretchAxis.fewest_eq_ite hn, if_neg hnlimit,
      Fill.derived_eq_ite hgap hbetween.1, if_pos (hpos.trans_le hbetween.2.1)]
  have hne : n ≠ 0 := Nat.one_le_iff_ne_zero.1 hbetween.1
  exact ⟨_, hfill, hne, hbetween.2, hbetween.isLeast hleast⟩

/-- Between two units and two and a quarter long, in ten with half a unit between neighbours. -/
def bounded : StretchAxis Rat :=
  { size := .size 10, minTile := some 2, maxTile := some (9 / 4), spacing := 1 / 2 }

/-- Three tiles are too long and five too short. -/
theorem bounded_tiles_land_between :
    (0 ≤ bounded.spacing ∧ bounded.count = none ∧ bounded.minTile = some 2 ∧ bounded.maxTile = some (9 / 4) ∧
        (0 : Rat) < 2) ∧
      (4 ≤ positionLimit ∧ Between 10 bounded.spacing 2 (9 / 4) 4) ∧ bounded.fill .x 10 = .ok ⟨4, 17 / 8⟩ ∧
      ∃ f, bounded.fill .x 10 = .ok f ∧ f.count ≠ 0 ∧ (2 ≤ f.tile ∧ f.tile ≤ 9 / 4) ∧
        IsLeast {n | Between 10 bounded.spacing 2 (9 / 4) n} f.count := by
  have hgap : 0 ≤ bounded.spacing := by decide +kernel
  have hpos : (0 : Rat) < 2 := by decide +kernel
  have hfour : Between 10 bounded.spacing 2 (9 / 4) 4 := ⟨by decide, by decide +kernel, by decide +kernel⟩
  have hlimit : 4 ≤ positionLimit := by decide
  have hfill : bounded.fill .x 10 = .ok ⟨4, 17 / 8⟩ := by decide +kernel
  exact ⟨⟨hgap, rfl, rfl, rfl, hpos⟩, ⟨hlimit, hfour⟩, hfill,
    tiles_land_between .x bounded 10 2 (9 / 4) hgap rfl rfl rfl hpos ⟨4, hlimit, hfour⟩⟩

end SketchLayout
