import SketchLayout.Proofs.Placement
import SketchLayout.Proofs.StretchRuns

/-!
# Extents without length

An extent without length has no room for tiles, and bounds on their size are to come to none there, whatever
the spacing. The room is looked at last, though. A number of tiles is inferred before, from the ratio of the
spacing to the bound and the spacing together, and that ratio is as great as one likes where the two nearly
cancel out. So the promise breaks in one place: a number beyond the limit is refused first
(`widthless_region_refused`). `flat_extents_take_none` says that it breaks nowhere else, and
`StretchAxis.not_overshoots_zero` that it takes a negative spacing or a negative bound to break it.
-/

namespace SketchLayout

variable {α : Type} [Scalar α]

/-! ## One axis -/

namespace StretchAxis

/-- The number of tiles that an axis infers in an extent is beyond the limit. -/
def Overshoots (s : StretchAxis α) (extent : α) : Prop := ∃ wanted, s.Infers extent wanted ∧ Exceeds wanted

/-- An extent without length for an axis that has no count but bounds. -/
structure Flat (s : StretchAxis α) (extent : α) : Prop where
  extent_le : Scalar.le extent Scalar.zero = true
  count : s.count = none
  bounded : ¬ (s.minTile = none ∧ s.maxTile = none)

variable {a : Axis} {s : StretchAxis α} {extent : α}

/-- A number beyond the limit is refused before anybody looks for room. -/
theorem Flat.refused (h : s.Flat extent) (hover : s.Overshoots extent) :
    s.ComesTo a extent (.error (.countTooLarge a)) := by
  obtain ⟨wanted, hwanted, hlimit⟩ := hover
  exact .inferredTooMany h.count hwanted hlimit

/-- Any other number comes to no tiles. -/
theorem Flat.bare (h : s.Flat extent) (hwithin : ¬ s.Overshoots extent) : s.ComesTo a extent (.ok .empty) := by
  obtain ⟨r, hr⟩ := exists_comesTo a s extent
  cases hr with
  | unconstrained _ hbare => exact absurd hbare h.bounded
  | givenTooMany hcount _ => cases h.count.symm.trans hcount
  | inferredTooMany _ hwanted hlimit => exact absurd ⟨_, hwanted, hlimit⟩ hwithin
  | given hcount _ => cases h.count.symm.trans hcount
  | short hcount hlow hroom => exact .short hcount hlow hroom
  | emptied hcount hwanted hlimit hroom => exact .emptied hcount hwanted hlimit hroom
  | inferred _ _ _ hroom => exact absurd (.inl h.extent_le) hroom

/-- In exact lengths the number is within the limit as long as neither the spacing nor a bound is negative:
one tile with its gap is then no shorter than the gap that an extent without length is counted with. -/
theorem not_overshoots_zero {s : StretchAxis Rat} (hgap : 0 ≤ s.spacing) (hlow : ∀ low ∈ s.minTile, 0 ≤ low)
    (hhigh : ∀ high ∈ s.maxTile, 0 ≤ high) : ¬ s.Overshoots 0 := by
  have hratio : ∀ bound, 0 ≤ bound → s.ratio 0 bound ≤ 1 := by
    intro bound hbound
    rw [ratio, zero_add]
    exact div_le_one_of_le₀ (by linarith) (by linarith)
  have hone : 1 ≤ positionLimit := by decide
  rintro ⟨wanted, hwanted, hlimit⟩
  cases hwanted with
  | @fewest high hmax _ =>
    have hceil : (s.ratio 0 high).ceil ≤ 1 := Rat.ceil_le_iff.2 (by exact_mod_cast hratio high (hhigh high hmax))
    have hover : positionLimit < (s.ratio 0 high).ceil.toNat := hlimit
    omega
  | @most low _ hmin _ =>
    have hfloor : (s.ratio 0 low).floor ≤ 1 := by
      have hle : ((s.ratio 0 low).floor : Rat) ≤ 1 := (Rat.floor_le _).trans (hratio low (hlow low hmin))
      exact_mod_cast hle
    have hover : positionLimit < (s.ratio 0 low).floor.toNat := hlimit
    omega

end StretchAxis

/-! ## Two axes -/

/-- **An extent without length takes no tiles, unless a count is refused first.** Let an axis without a
count, but with bounds, lie in an extent without length. No tiles come out, unless the number that its
spacing and bounds infer is beyond the limit; then that number is refused, though no tile would have come
of it. For Y this is so behind an X that takes tiles. -/
theorem flat_extents_take_none (s : Stretch α) (region : Rect α)
    (hregion : Dimension.resolveRect s.x.size s.y.size s.center = .ok region) :
    (s.x.Flat region.x.size →
      (¬ s.x.Overshoots region.x.size → s.tiles = .ok []) ∧
        (s.x.Overshoots region.x.size → s.tiles = .error (.countTooLarge .x))) ∧
      ∀ fx, s.x.fill .x region.x.size = .ok fx → fx.count ≠ 0 → s.y.Flat region.y.size →
        (¬ s.y.Overshoots region.y.size → s.tiles = .ok []) ∧
          (s.y.Overshoots region.y.size → s.tiles = .error (.countTooLarge .y)) := by
  constructor
  · intro hflat
    constructor
    · intro hwithin
      exact Stretch.comesTo_zero_iff.1 (.bareX hregion (hflat.bare hwithin) rfl)
    · intro hover
      exact Stretch.comesTo_error_iff.1 (.refusedX hregion (hflat.refused hover))
  · intro fx hfill hcount hflat
    have hx : s.CountedX region fx := ⟨hregion, StretchAxis.comesTo_iff.2 hfill, hcount⟩
    constructor
    · intro hwithin
      exact Stretch.comesTo_zero_iff.1 (.bareY hx (hflat.bare hwithin) rfl)
    · intro hover
      exact Stretch.comesTo_error_iff.1 (.refusedY hx (hflat.refused hover))

/-- Two columns of a region without height, where one row is inferred of two units of spacing. -/
def noHeight : Stretch Float where
  x := { size := .size 4, count := some 2, spacing := 0 }
  y := { size := .range 3 3, minTile := some 0, spacing := 2 }

theorem heightless_region_takes_none :
    ∃ region fx, Dimension.resolveRect noHeight.x.size noHeight.y.size noHeight.center = .ok region ∧
      noHeight.x.fill .x region.x.size = .ok fx ∧ fx.count ≠ 0 ∧ noHeight.y.Flat region.y.size ∧
      ¬ noHeight.y.Overshoots region.y.size ∧ noHeight.tiles = .ok [] := by
  have hregion : Dimension.resolveRect noHeight.x.size noHeight.y.size noHeight.center = .ok ⟨⟨-2, 2⟩, ⟨3, 3⟩⟩ := by
    decide +kernel
  have hfill : noHeight.x.fill .x (Interval.size ⟨-2, 2⟩) = .ok ⟨2, 2⟩ := by decide +kernel
  have hflat : noHeight.y.Flat (Interval.size ⟨3, 3⟩) := ⟨by decide +kernel, rfl, fun h => nomatch h.1⟩
  have hwithin : ¬ noHeight.y.Overshoots (Interval.size ⟨3, 3⟩) := by
    rintro ⟨wanted, hwanted, hlimit⟩
    cases hwanted with
    | fewest hhigh _ => cases hhigh
    | most _ hlow _ =>
      cases hlow
      have hone : (Scalar.reach (noHeight.y.ratio (Interval.size ⟨3, 3⟩) 0)).fitting = some 1 := by decide +kernel
      rw [hone] at hlimit
      have hsmall : ¬ positionLimit < 1 := by decide
      exact hsmall hlimit
  obtain ⟨-, hy⟩ := flat_extents_take_none noHeight _ hregion
  exact ⟨_, _, hregion, hfill, by decide, hflat, hwithin, (hy _ hfill (by decide) hflat).1 hwithin⟩

/-- Tiles that may overlap by half a unit and are at most hardly less long than that, in a region without width. -/
def noWidth : Stretch Float where
  x := { size := .size 0, maxTile := some 0.49999999, spacing := -0.5 }
  y := { size := .size 4, count := some 1, spacing := 0 }

/-- Half a unit over a hundred-millionth is fifty million tiles. They are refused, where none were to be had. -/
theorem widthless_region_refused :
    ∃ region, Dimension.resolveRect noWidth.x.size noWidth.y.size noWidth.center = .ok region ∧ region.x.size = 0 ∧
      noWidth.x.count = none ∧ noWidth.x.maxTile = some 0.49999999 ∧
      ((Binary.ofFloat 0.49999999).isFinite ∧ (Binary.ofFloat noWidth.x.spacing).isFinite) ∧
      noWidth.tiles = .error (.countTooLarge .x) := by
  have hregion : Dimension.resolveRect noWidth.x.size noWidth.y.size noWidth.center = .ok ⟨⟨-0, 0⟩, ⟨-2, 2⟩⟩ := by
    decide +kernel
  exact ⟨_, hregion, by decide +kernel, rfl, rfl, by decide +kernel, by decide +kernel⟩

end SketchLayout
