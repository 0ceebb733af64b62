import Mathlib.Data.Rat.Floor
import SketchLayout.Number.Binary
import SketchLayout.Proofs.Centering

/-!
# What stretched tiles come to

A request for stretched tiles can be wrong in several places at once, and it can come to nothing before a
fault is looked at. `Stretch.ComesTo` says which it is, as rules about counts and tiles alone: the centering
is read first, then X is settled, an X without tiles ends the run, Y is settled, a Y without tiles ends it,
and only then the tiles of either axis have to be positive and all of them within the limit. The corners are
placed by a distribution with checks of its own. Behind the checks above there are three that it can still
fail, the two tile sizes and the total (`origins_points`), and of these a tile size only where the count
was given: a count that was inferred has been emptied by then (`StretchAxis.ComesTo.count_ne_none`).

Nothing is assumed of the arithmetic, so all this holds of doubles that are no numbers as well: a
comparison with one is false, and what fails no check has passed it.
-/

namespace SketchLayout

variable {α : Type} [Scalar α]

/-! ## What an axis infers -/

/-- A number of tiles beyond the limit. Of a length above every number, there is no number of tiles. -/
def Exceeds : Option Nat → Prop
  | none => True
  | some n => positionLimit < n

namespace StretchAxis

/-- The number of tiles that the bounds of an axis infer in an extent: the fewest within the upper bound
or, without one, the most within the lower. An extent below the lower bound infers none. -/
inductive Infers (s : StretchAxis α) (extent : α) : Option Nat → Prop
  | fewest {high : α} (hhigh : s.maxTile = some high) (hroom : ∀ low ∈ s.minTile, Scalar.lt extent low = false) :
      Infers s extent (Scalar.reach (s.ratio extent high)).covering
  | most {low : α} (hhigh : s.maxTile = none) (hlow : s.minTile = some low) (hroom : Scalar.lt extent low = false) :
      Infers s extent (Scalar.reach (s.ratio extent low)).fitting

/-- Bounds infer a number unless the extent is below the lower one. -/
theorem exists_infers {s : StretchAxis α} {extent : α} (hbounded : ¬ (s.minTile = none ∧ s.maxTile = none))
    (hroom : ∀ low ∈ s.minTile, Scalar.lt extent low = false) : ∃ wanted, s.Infers extent wanted := by
  cases hhigh : s.maxTile with
  | some high => exact ⟨_, .fewest hhigh hroom⟩
  | none =>
    cases hlow : s.minTile with
    | none => exact absurd ⟨hlow, hhigh⟩ hbounded
    | some low => exact ⟨_, .most hhigh hlow (hroom low hlow)⟩

end StretchAxis

/-! ## What an axis comes to -/

namespace Fill

/-- There is no room in an extent for the tiles of a derived number. -/
def NoRoom (n : Nat) (extent spacing : α) : Prop :=
  Scalar.le extent Scalar.zero = true ∨ Scalar.le (stretched n extent spacing).tile Scalar.zero = true

theorem derived_of_noRoom {n : Nat} {extent spacing : α} (h : NoRoom n extent spacing) :
    derived n extent spacing = empty := by
  unfold derived
  rcases h with hextent | htile
  · simp only [hextent, Bool.true_or, if_true]
  · simp only [htile, Bool.or_true, if_true]

theorem derived_of_room {n : Nat} {extent spacing : α} (h : ¬ NoRoom n extent spacing) :
    derived n extent spacing = stretched n extent spacing := by
  simp only [NoRoom, not_or, Bool.not_eq_true] at h
  unfold derived
  simp only [h.1, h.2, Bool.or_false, Bool.false_eq_true, if_false]

end Fill

namespace StretchAxis

/-- What an axis comes to in an extent: a refusal, or a number of tiles and the size of each. -/
inductive ComesTo (a : Axis) (s : StretchAxis α) (extent : α) : Except (LayoutError α) (Fill α) → Prop
  /-- nothing to go by -/
  | unconstrained (hcount : s.count = none) (hbare : s.minTile = none ∧ s.maxTile = none) :
      ComesTo a s extent (.error (.stretchUnconstrained a))
  | givenTooMany {n : Nat} (hcount : s.count = some n) (hlimit : positionLimit < n) :
      ComesTo a s extent (.error (.countTooLarge a))
  | inferredTooMany {wanted : Option Nat} (hcount : s.count = none) (hwanted : s.Infers extent wanted)
      (hlimit : Exceeds wanted) : ComesTo a s extent (.error (.countTooLarge a))
  /-- a given count is taken as it is, bounds or not and room or not -/
  | given {n : Nat} (hcount : s.count = some n) (hlimit : n ≤ positionLimit) :
      ComesTo a s extent (.ok (.stretched n extent s.spacing))
  /-- an extent below the lower bound -/
  | short {low : α} (hcount : s.count = none) (hlow : s.minTile = some low) (hroom : Scalar.lt extent low = true) :
      ComesTo a s extent (.ok .empty)
  | emptied {n : Nat} (hcount : s.count = none) (hwanted : s.Infers extent (some n)) (hlimit : n ≤ positionLimit)
      (hroom : Fill.NoRoom n extent s.spacing) : ComesTo a s extent (.ok .empty)
  | inferred {n : Nat} (hcount : s.count = none) (hwanted : s.Infers extent (some n)) (hlimit : n ≤ positionLimit)
      (hroom : ¬ Fill.NoRoom n extent s.spacing) : ComesTo a s extent (.ok (.stretched n extent s.spacing))

variable {a : Axis} {s : StretchAxis α} {extent : α}

theorem fill_of_given {n : Nat} (hcount : s.count = some n) :
    s.fill a extent = (checkedCount a n).map fun n => .stretched n extent s.spacing := by
  unfold fill
  rw [hcount]
  rfl

theorem fill_of_infers {wanted : Option Nat} (hcount : s.count = none) (h : s.Infers extent wanted) :
    s.fill a extent = (inferredCount a wanted).map fun n => .derived n extent s.spacing := by
  unfold fill
  rw [hcount]
  cases h with
  | fewest hhigh hroom =>
    rw [hhigh]
    cases hlow : s.minTile with
    | none => rfl
    | some low =>
      simp only [hroom low hlow, Bool.false_eq_true, if_false]
      rfl
  | most hhigh hlow hroom =>
    rw [hhigh, hlow]
    simp only [hroom, Bool.false_eq_true, if_false]
    rfl

omit [Scalar α] in
theorem inferredCount_of_exceeds {wanted : Option Nat} (h : Exceeds wanted) :
    (inferredCount a wanted : Except (LayoutError α) Nat) = .error (.countTooLarge a) := by
  cases wanted with
  | none => rfl
  | some n => exact if_pos h

/-- The rules give one answer, the one that the run gives. -/
theorem ComesTo.fill_eq {r : Except (LayoutError α) (Fill α)} (h : s.ComesTo a extent r) : s.fill a extent = r := by
  cases h with
  | unconstrained hcount hbare =>
    unfold fill
    rw [hcount, hbare.1, hbare.2]
  | givenTooMany hcount hlimit =>
    rw [fill_of_given hcount, checkedCount, if_pos hlimit]
    rfl
  | inferredTooMany hcount hwanted hlimit =>
    rw [fill_of_infers hcount hwanted, inferredCount_of_exceeds hlimit]
    rfl
  | given hcount hlimit =>
    rw [fill_of_given hcount, checkedCount_eq_ok.2 ⟨hlimit, rfl⟩]
    rfl
  | short hcount hlow hroom =>
    unfold fill
    rw [hcount, hlow]
    simp only [hroom, if_true]
  | emptied hcount hwanted hlimit hroom =>
    rw [fill_of_infers hcount hwanted, inferredCount_eq_ok.2 ⟨rfl, hlimit⟩, ← Fill.derived_of_noRoom hroom]
    rfl
  | inferred hcount hwanted hlimit hroom =>
    rw [fill_of_infers hcount hwanted, inferredCount_eq_ok.2 ⟨rfl, hlimit⟩, ← Fill.derived_of_room hroom]
    rfl

/-- Every axis comes to something. -/
theorem exists_comesTo (a : Axis) (s : StretchAxis α) (extent : α) : ∃ r, s.ComesTo a extent r := by
  cases hcount : s.count with
  | some n =>
    by_cases hlimit : positionLimit < n
    · exact ⟨_, .givenTooMany hcount hlimit⟩
    · exact ⟨_, .given hcount (by omega)⟩
  | none =>
    by_cases hbare : s.minTile = none ∧ s.maxTile = none
    · exact ⟨_, .unconstrained hcount hbare⟩
    by_cases hroom : ∀ low ∈ s.minTile, Scalar.lt extent low = false
    · obtain ⟨wanted, hwanted⟩ := exists_infers hbare hroom
      by_cases hlimit : Exceeds wanted
      · exact ⟨_, .inferredTooMany hcount hwanted hlimit⟩
      cases wanted with
      | none => exact absurd trivial hlimit
      | some n =>
        have hle : n ≤ positionLimit := Nat.le_of_not_lt hlimit
        by_cases hn : Fill.NoRoom n extent s.spacing
        · exact ⟨_, .emptied hcount hwanted hle hn⟩
        · exact ⟨_, .inferred hcount hwanted hle hn⟩
    · simp only [Classical.not_forall, Bool.not_eq_false] at hroom
      obtain ⟨low, hlow, hshort⟩ := hroom
      exact ⟨_, .short hcount hlow hshort⟩

/-- **What an axis comes to, and nothing else, is its fill.** -/
theorem comesTo_iff {r : Except (LayoutError α) (Fill α)} : s.ComesTo a extent r ↔ s.fill a extent = r := by
  constructor
  · exact ComesTo.fill_eq
  · rintro rfl
    obtain ⟨r, hr⟩ := exists_comesTo a s extent
    rwa [hr.fill_eq]

/-- A tile that is there and has no size was asked for by its count. -/
theorem ComesTo.count_ne_none {f : Fill α} (h : s.ComesTo a extent (.ok f)) (hcount : f.count ≠ 0)
    (htile : Scalar.le f.tile Scalar.zero = true) : s.count ≠ none := by
  cases h with
  | given hgiven _ => simp [hgiven]
  | short _ _ _ => exact absurd rfl hcount
  | emptied _ _ _ _ => exact absurd rfl hcount
  | inferred _ _ _ hroom => exact absurd (.inr htile) hroom

theorem ComesTo.count_le {f : Fill α} (h : s.ComesTo a extent (.ok f)) : f.count ≤ positionLimit :=
  count_fill_le h.fill_eq

end StretchAxis

/-! ## What a stretch comes to -/

namespace Stretch

/-- Where a stretch lies, and the tiles that X comes to, of which there are some. -/
structure CountedX (s : Stretch α) (region : Rect α) (fx : Fill α) : Prop where
  lies : Dimension.resolveRect s.x.size s.y.size s.center = .ok region
  x : s.x.ComesTo .x region.x.size (.ok fx)
  count_x : fx.count ≠ 0

/-- The same, and the tiles that Y comes to, of which there are some as well. -/
structure Counted (s : Stretch α) (region : Rect α) (fx fy : Fill α) : Prop extends CountedX s region fx where
  y : s.y.ComesTo .y region.y.size (.ok fy)
  count_y : fy.count ≠ 0

/-- What a stretch comes to: a refusal, or a number of tiles. -/
inductive ComesTo (s : Stretch α) : Except (LayoutError α) Nat → Prop
  /-- a centering that names no axes of a plane -/
  | misnamed {letters : String} (hcenter : s.center = .axes letters) (hfits : ¬ s.center.Fits .two) :
      ComesTo s (.error (.invalidCenter letters .two))
  | refusedX {region : Rect α} {e : LayoutError α}
      (hregion : Dimension.resolveRect s.x.size s.y.size s.center = .ok region)
      (hx : s.x.ComesTo .x region.x.size (.error e)) : ComesTo s (.error e)
  /-- no tiles along X, whatever is said of Y -/
  | bareX {region : Rect α} {fx : Fill α} (hregion : Dimension.resolveRect s.x.size s.y.size s.center = .ok region)
      (hx : s.x.ComesTo .x region.x.size (.ok fx)) (hbare : fx.count = 0) : ComesTo s (.ok 0)
  | refusedY {region : Rect α} {fx : Fill α} {e : LayoutError α} (h : s.CountedX region fx)
      (hy : s.y.ComesTo .y region.y.size (.error e)) : ComesTo s (.error e)
  /-- no tiles along Y, whatever the size of those along X -/
  | bareY {region : Rect α} {fx fy : Fill α} (h : s.CountedX region fx)
      (hy : s.y.ComesTo .y region.y.size (.ok fy)) (hbare : fy.count = 0) : ComesTo s (.ok 0)
  | sizelessX {region : Rect α} {fx fy : Fill α} (h : s.Counted region fx fy)
      (hx : Scalar.le fx.tile Scalar.zero = true) : ComesTo s (.error (.invalidTileSize .x fx.tile))
  | sizelessY {region : Rect α} {fx fy : Fill α} (h : s.Counted region fx fy)
      (hx : Scalar.le fx.tile Scalar.zero = false) (hy : Scalar.le fy.tile Scalar.zero = true) :
      ComesTo s (.error (.invalidTileSize .y fy.tile))
  | tooMany {region : Rect α} {fx fy : Fill α} (h : s.Counted region fx fy)
      (hx : Scalar.le fx.tile Scalar.zero = false) (hy : Scalar.le fy.tile Scalar.zero = false)
      (htotal : positionLimit < fx.count * fy.count) : ComesTo s (.error (.tooManyPositions fx.count fy.count))
  | filled {region : Rect α} {fx fy : Fill α} (h : s.Counted region fx fy)
      (hx : Scalar.le fx.tile Scalar.zero = false) (hy : Scalar.le fy.tile Scalar.zero = false)
      (htotal : fx.count * fy.count ≤ positionLimit) : ComesTo s (.ok (fx.count * fy.count))

variable {s : Stretch α} {region : Rect α} {fx fy : Fill α}

/-- Behind the checks of the axes, the distribution that places the corners has three left to fail. -/
theorem origins_points (h : s.Counted region fx fy) :
    (s.origins fx fy).points =
      if Scalar.le fx.tile Scalar.zero then .error (.invalidTileSize .x fx.tile)
      else if Scalar.le fy.tile Scalar.zero then .error (.invalidTileSize .y fy.tile)
      else if positionLimit < fx.count * fy.count then .error (.tooManyPositions fx.count fy.count)
      else .ok (pairs Point.mk ((s.origins fx fy).x.positions .origin region.x fx.count)
        ((s.origins fx fy).y.positions .origin region.y fy.count)) := by
  by_cases hx : Scalar.le fx.tile Scalar.zero = true
  · have hrefused : (s.origins fx fy).x.checkedTile .x = .error (.invalidTileSize .x fx.tile) := if_pos hx
    rw [if_pos hx, Distribute.points, hrefused]
    rfl
  by_cases hy : Scalar.le fy.tile Scalar.zero = true
  · have hpassed : (s.origins fx fy).x.checkedTile .x = .ok () := if_neg hx
    have hrefused : (s.origins fx fy).y.checkedTile .y = .error (.invalidTileSize .y fy.tile) := if_pos hy
    rw [if_neg hx, if_pos hy, Distribute.points, hpassed, ok_bind, hrefused]
    rfl
  have hcountX : ¬ positionLimit < fx.count := Nat.not_lt.2 h.x.count_le
  have hcountY : ¬ positionLimit < fy.count := Nat.not_lt.2 h.y.count_le
  rw [if_neg hx, if_neg hy, Distribute.points_of_asked (Bool.eq_false_iff.2 hx) (Bool.eq_false_iff.2 hy) h.lies rfl rfl,
    if_neg hcountX, if_neg hcountY]
  rfl

/-- Once both axes come to tiles, a run comes to what the distribution of their corners comes to. -/
theorem Counted.length_tiles (h : s.Counted region fx fy) :
    s.tiles.map List.length = (s.origins fx fy).points.map List.length := by
  unfold tiles
  simp only [h.lies, h.x.fill_eq, h.y.fill_eq, h.count_x, h.count_y, ok_bind, if_false]
  cases (s.origins fx fy).points with
  | error e => rfl
  | ok corners => exact congrArg Except.ok (List.length_map _)

/-- The rules give one answer, the one that the run gives. -/
theorem ComesTo.tiles_eq {r : Except (LayoutError α) Nat} (h : s.ComesTo r) : s.tiles.map List.length = r := by
  cases h with
  | @misnamed letters hcenter hfits =>
    have hrefused : (s.center.resolve .two : Except (LayoutError α) CenterFlags) =
        .error (.invalidCenter letters .two) := by
      rcases Center.resolve_cases α s.center .two with ⟨letters', hcenter', hrefused⟩ | ⟨flags, hflags⟩
      · cases hcenter.symm.trans hcenter'
        exact hrefused
      · exact absurd (Center.resolve_eq_ok.1 hflags).1 hfits
    unfold tiles Dimension.resolveRect
    rw [hrefused]
    rfl
  | refusedX hregion hx =>
    unfold tiles
    simp only [hregion, hx.fill_eq, ok_bind]
    rfl
  | bareX hregion hx hbare =>
    rw [tiles_of_bare_x ⟨hregion, hx.fill_eq⟩ hbare]
    rfl
  | refusedY h hy =>
    unfold tiles
    simp only [h.lies, h.x.fill_eq, h.count_x, hy.fill_eq, ok_bind, if_false]
    rfl
  | bareY h hy hbare =>
    unfold tiles
    simp only [h.lies, h.x.fill_eq, h.count_x, hy.fill_eq, hbare, ok_bind, if_true, if_false]
    rfl
  | sizelessX h hx =>
    rw [h.length_tiles, origins_points h, if_pos hx]
    rfl
  | sizelessY h hx hy =>
    rw [h.length_tiles, origins_points h, hx, if_neg (by simp), if_pos hy]
    rfl
  | tooMany h hx hy htotal =>
    rw [h.length_tiles, origins_points h, hx, hy, if_neg (by simp), if_neg (by simp), if_pos htotal]
    rfl
  | @filled region fx fy h hx hy htotal =>
    have hsmall : ¬ positionLimit < fx.count * fy.count := by omega
    rw [h.length_tiles, origins_points h, hx, hy, if_neg (by simp), if_neg (by simp), if_neg hsmall]
    exact congrArg Except.ok (by simp)

/-- Every stretch comes to something. -/
theorem exists_comesTo (s : Stretch α) : ∃ r, s.ComesTo r := by
  rcases Center.resolve_cases α s.center .two with ⟨letters, hcenter, hrefused⟩ | ⟨flags, hflags⟩
  · have hfits : ¬ s.center.Fits .two := by
      rw [← Center.isOk_resolve α, hrefused]
      exact Bool.false_ne_true
    exact ⟨_, .misnamed hcenter hfits⟩
  have hregion : Dimension.resolveRect s.x.size s.y.size s.center =
      .ok ⟨s.x.size.resolve flags.x, s.y.size.resolve flags.y⟩ := resolveRect_eq_ok.2 ⟨flags, hflags, rfl⟩
  -- X is settled, then Y, and only then the tiles of either
  obtain ⟨rx, hx⟩ := StretchAxis.exists_comesTo .x s.x (s.x.size.resolve flags.x).size
  cases rx with
  | error e => exact ⟨_, .refusedX hregion hx⟩
  | ok fx =>
    by_cases hbareX : fx.count = 0
    · exact ⟨_, .bareX hregion hx hbareX⟩
    have hcountedX : s.CountedX _ fx := ⟨hregion, hx, hbareX⟩
    obtain ⟨ry, hy⟩ := StretchAxis.exists_comesTo .y s.y (s.y.size.resolve flags.y).size
    cases ry with
    | error e => exact ⟨_, .refusedY hcountedX hy⟩
    | ok fy =>
      by_cases hbareY : fy.count = 0
      · exact ⟨_, .bareY hcountedX hy hbareY⟩
      have hcounted : s.Counted _ fx fy := ⟨hcountedX, hy, hbareY⟩
      cases htileX : Scalar.le fx.tile Scalar.zero with
      | true => exact ⟨_, .sizelessX hcounted htileX⟩
      | false =>
        cases htileY : Scalar.le fy.tile Scalar.zero with
        | true => exact ⟨_, .sizelessY hcounted htileX htileY⟩
        | false =>
          by_cases htotal : positionLimit < fx.count * fy.count
          · exact ⟨_, .tooMany hcounted htileX htileY htotal⟩
          · exact ⟨_, .filled hcounted htileX htileY (by omega)⟩

theorem comesTo_iff {r : Except (LayoutError α) Nat} : s.ComesTo r ↔ s.tiles.map List.length = r := by
  constructor
  · exact ComesTo.tiles_eq
  · rintro rfl
    obtain ⟨r, hr⟩ := exists_comesTo s
    rwa [hr.tiles_eq]

theorem comesTo_error_iff {e : LayoutError α} : s.ComesTo (.error e) ↔ s.tiles = .error e := by
  rw [comesTo_iff]
  cases s.tiles <;> simp [Except.map]

theorem comesTo_zero_iff : s.ComesTo (.ok 0) ↔ s.tiles = .ok [] := by
  rw [comesTo_iff]
  cases s.tiles <;> simp [Except.map]

end Stretch

omit [Scalar α] in
/-- The errors that a request for stretched tiles can have. -/
def LayoutError.OfStretch : LayoutError α → Prop
  | invalidCenter _ setting => setting = .two
  | stretchUnconstrained a | countTooLarge a | invalidTileSize a _ => a ≠ .z
  | tooManyPositions .. => True
  | invalidCount _ | spacingConflict _ | spacingMissing _ | invalidDimension _ | invalidAnchor _ => False

theorem StretchAxis.ComesTo.ofStretch {a : Axis} {s : StretchAxis α} {extent : α} {e : LayoutError α}
    (h : s.ComesTo a extent (.error e)) (ha : a ≠ .z) : e.OfStretch := by
  cases h <;> exact ha

namespace Stretch
variable {s : Stretch α}

theorem ComesTo.ofStretch {e : LayoutError α} (h : s.ComesTo (.error e)) : e.OfStretch := by
  cases h with
  | misnamed _ _ => exact rfl
  | refusedX _ hx => exact hx.ofStretch Axis.noConfusion
  | refusedY _ hy => exact hy.ofStretch Axis.noConfusion
  | sizelessX _ _ => exact Axis.noConfusion
  | sizelessY _ _ _ => exact Axis.noConfusion
  | tooMany _ _ _ _ => exact trivial

/-- A tile without size along X was asked for by the count of X. -/
theorem ComesTo.count_x_ne_none {size : α} (h : s.ComesTo (.error (.invalidTileSize .x size))) : s.x.count ≠ none := by
  cases h with
  | refusedX _ hx => cases hx
  | refusedY _ hy => cases hy
  | sizelessX h hx => exact h.x.count_ne_none h.count_x hx

theorem ComesTo.count_y_ne_none {size : α} (h : s.ComesTo (.error (.invalidTileSize .y size))) : s.y.count ≠ none := by
  cases h with
  | refusedX _ hx => cases hx
  | refusedY _ hy => cases hy
  | sizelessY h _ hy => exact h.y.count_ne_none h.count_y hy

end Stretch

/-- **What stretched tiles come to is decided by the rules.** Every request comes to just the refusal, or
just the number of tiles, that `Stretch.ComesTo` allows. It has no other errors than an invalid centering,
an axis without a count or bounds, a count or a product of counts above the limit and a tile without size;
and a tile without size is an error only along an axis whose count is given. -/
theorem stretch_comes_to (s : Stretch α) :
    (∀ r, s.ComesTo r ↔ s.tiles.map List.length = r) ∧ (∀ e, s.tiles = .error e → e.OfStretch) ∧
      ∀ size, (s.tiles = .error (.invalidTileSize .x size) → s.x.count ≠ none) ∧
        (s.tiles = .error (.invalidTileSize .y size) → s.y.count ≠ none) := by
  refine ⟨fun _ => Stretch.comesTo_iff, fun e he => ?_, fun size => ⟨fun he => ?_, fun he => ?_⟩⟩
  · exact (Stretch.comesTo_error_iff.2 he).ofStretch
  · exact (Stretch.comesTo_error_iff.2 he).count_x_ne_none
  · exact (Stretch.comesTo_error_iff.2 he).count_y_ne_none

/-- Along X three tiles fill the extent; along Y two gaps of two units take more than there is. The bound of Y
is no number, and nobody asks for it. -/
def crowded : Stretch Float where
  x := { size := .size 10, count := some 3, spacing := 1 }
  y := { size := .size 1, count := some 2, minTile := some (0 / 0), spacing := 2 }
  center := .axes "yx"

theorem crowded_rows_come_to_error :
    crowded.tiles = .error (.invalidTileSize .y (-1 / 2)) ∧ crowded.ComesTo (.error (.invalidTileSize .y (-1 / 2))) ∧
      (LayoutError.invalidTileSize .y (-1 / 2) : LayoutError Float).OfStretch ∧ crowded.y.count ≠ none := by
  have htiles : crowded.tiles = .error (.invalidTileSize .y (-1 / 2)) := by decide +kernel
  obtain ⟨hrules, herrors, hsizes⟩ := stretch_comes_to crowded
  refine ⟨htiles, (hrules _).2 ?_, herrors _ htiles, (hsizes _).2 htiles⟩
  rw [htiles]
  rfl

/-- A tile of X without size is no matter while Y takes no tiles. -/
example : ({
    x := { size := .size 10, count := some 3, spacing := 12 }
    y := { size := .size 1, count := some 0, spacing := 2 } } : Stretch Float).tiles = .ok [] := by
  decide +kernel

end SketchLayout
