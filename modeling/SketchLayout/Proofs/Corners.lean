import SketchLayout.Proofs.Centering
import SketchLayout.Proofs.Fill

/-!
# Four corners, three ways

The corners of a region come out of three requests: its outline reads them off the bounds, a grid of two
by two points steps from the lower bounds to the upper ones, and a stretch of a single tile is a tile as
large as the region, put in its middle. All three answer the same (`corners_three_ways`): the outline and
the grid are refused together, the centering being at fault, and list the same points otherwise; the
corners of the single tile are the outline, in its order, which is clockwise.
-/

namespace SketchLayout

/-! ## The requests -/

/-- The grid with a point at each corner of an outline. -/
def Outline.lattice {α : Type} (o : Outline α) : Grid α where
  x := { count := 2, size := some o.sizeX }
  y := { count := 2, size := some o.sizeY }
  center := o.center

/-- The outline of the region that a stretch fills. -/
def Stretch.outline {α : Type} (s : Stretch α) : Outline α := ⟨s.x.size, s.y.size, s.center⟩

/-! ## Area with a sign -/

/-- Twice the area, with a sign, of the triangle from the origin over two points. -/
def Point.cross (p q : Point Rat) : Rat := p.x * q.y - q.x * p.y

/-- The area inside a closed line through points, by the shoelace formula: positive for points that go
round anticlockwise, negative for clockwise ones. -/
def shoelace (ps : List (Point Rat)) : Rat := (List.zipWith Point.cross ps (ps.rotateLeft 1)).sum / 2

theorem shoelace_corners (r : Rect Rat) : shoelace r.corners = -(r.x.size * r.y.size) := by
  have hsides : shoelace r.corners =
      (Point.cross ⟨r.x.min, r.y.min⟩ ⟨r.x.min, r.y.max⟩ + (Point.cross ⟨r.x.min, r.y.max⟩ ⟨r.x.max, r.y.max⟩ +
        (Point.cross ⟨r.x.max, r.y.max⟩ ⟨r.x.max, r.y.min⟩ +
          (Point.cross ⟨r.x.max, r.y.min⟩ ⟨r.x.min, r.y.min⟩ + 0)))) / 2 := rfl
  rw [hsides, Interval.size_rat, Interval.size_rat]
  simp only [Point.cross]
  ring

/-- The outline comes down along the second column, where a list by columns goes up again. -/
theorem corners_perm (r : Rect Rat) : r.corners.Perm (pairs Point.mk [r.x.min, r.x.max] [r.y.min, r.y.max]) := by
  simp only [Rect.corners, pairs_cons, pairs_nil, List.map_cons, List.map_nil, List.append_nil, List.cons_append,
    List.nil_append]
  exact .cons _ (.cons _ (.swap _ _ _))

/-! ## The grid -/

/-- Of two points along an axis, the first is at the lower bound of its extent and the second at the upper. -/
theorem Step.coordinates_two (i : Interval Rat) :
    Step.coordinates ⟨i.size / Scalar.ofNat 1, i.min⟩ 2 = [i.min, i.max] := by
  show [(0 : Nat) * (i.size / (1 : Nat)) + i.min, (1 : Nat) * (i.size / (1 : Nat)) + i.min] = [i.min, i.max]
  have hfirst : ((0 : Nat) : Rat) * (i.size / (1 : Nat)) + i.min = i.min := by push_cast; ring
  have hsecond : ((1 : Nat) : Rat) * (i.size / (1 : Nat)) + i.min = i.max := by
    rw [Interval.size_rat]
    push_cast
    ring
  rw [hfirst, hsecond]

theorem Outline.lattice_points (o : Outline Rat) :
    o.lattice.points = (Dimension.resolveRect o.sizeX o.sizeY o.center).map fun r =>
      pairs Point.mk [r.x.min, r.x.max] [r.y.min, r.y.max] := by
  have hrun : o.lattice.points = o.center.resolve .two >>= fun flags =>
      let x := o.sizeX.resolve flags.x
      let y := o.sizeY.resolve flags.y
      -- two points along either axis are within every limit
      pure (pairs Point.mk (Step.coordinates ⟨x.size / Scalar.ofNat 1, x.min⟩ 2)
        (Step.coordinates ⟨y.size / Scalar.ofNat 1, y.min⟩ 2)) := rfl
  simp only [hrun, Step.coordinates_two, Dimension.resolveRect]
  cases (o.center.resolve .two : Except (LayoutError Rat) CenterFlags) with
  | error e => rfl
  | ok flags => rfl

/-! ## The single tile -/

/-- One tile alone is as large as the extent. -/
theorem StretchAxis.fill_one (a : Axis) {s : StretchAxis Rat} (hs : s.count = some 1) (extent : Rat) :
    s.fill a extent = .ok ⟨1, extent⟩ := by
  have hfill : s.fill a extent = .ok (.stretched 1 extent s.spacing) := by
    rw [fill, hs]
    rfl
  rw [hfill, Fill.stretched, if_neg Nat.one_ne_zero]
  show Except.ok (Fill.mk 1 ((s.spacing + extent) / ((1 : Nat) : Rat) - s.spacing)) = _
  rw [Nat.cast_one, div_one, add_sub_cancel_left]

/-- It takes the extent itself. -/
theorem StretchAxis.spans_one (s : StretchAxis Rat) {e : Interval Rat} (he : 0 < e.size) :
    s.spans ⟨1, e.size⟩ e = [e] := by
  have hspans := spans_eq s ⟨1, e.size⟩ e he
  have hstart : e.tileStart e.size 1 0 = e.min := by
    rw [Interval.tileStart_one, Interval.size_rat]
    ring
  have hend : e.min + e.size = e.max := by
    rw [Interval.size_rat]
    ring
  rw [hspans]
  simp [hstart, hend]

theorem Stretch.tiles_one {s : Stretch Rat} {region : Rect Rat}
    (hr : Dimension.resolveRect s.x.size s.y.size s.center = .ok region) (hx : s.x.count = some 1)
    (hy : s.y.count = some 1) (hpx : 0 < region.x.size) (hpy : 0 < region.y.size) : s.tiles = .ok [region] := by
  have hplace : ∀ {extent : Rat}, 0 < extent → Fill.Placeable ⟨1, extent⟩ := by
    intro extent hpos
    have hlimit : 1 ≤ positionLimit := by decide
    exact ⟨Nat.one_ne_zero, hlimit, by simpa using hpos⟩
  have htotal : 1 * 1 ≤ positionLimit := by decide
  have hfills : s.Fills region ⟨1, region.x.size⟩ ⟨1, region.y.size⟩ :=
    { settles := ⟨hr, StretchAxis.fill_one .x hx region.x.size⟩
      fill_y := StretchAxis.fill_one .y hy region.y.size
      place_x := hplace hpx
      place_y := hplace hpy
      total := htotal }
  rw [tiles_of_fills hfills, StretchAxis.spans_one s.x hpx, StretchAxis.spans_one s.y hpy]
  rfl

/-! ## The law -/

/-- **An outline, a grid of two by two points and a single tile describe the same region.** The outline and
the grid are both refused, for the same centering word, or both list the same four points, those of the
outline clockwise. Where both extents are positive, a stretch of one by one tiles over the region, with
any gaps and bounds on its tiles, gives one tile, whose corners are the outline in its order. -/
theorem corners_three_ways (o : Outline Rat) :
    (∃ letters, o.center = .axes letters ∧ o.points = .error (.invalidCenter letters .two) ∧
      o.lattice.points = .error (.invalidCenter letters .two)) ∨
    ∃ region ps qs, Dimension.resolveRect o.sizeX o.sizeY o.center = .ok region ∧ o.points = .ok ps ∧
      o.lattice.points = .ok qs ∧ ps.length = 4 ∧ ps.Perm qs ∧ shoelace ps = -(region.x.size * region.y.size) ∧
      ∀ s : Stretch Rat, s.outline = o → s.x.count = some 1 → s.y.count = some 1 → 0 < region.x.size →
        0 < region.y.size → ∃ tile, s.tiles = .ok [tile] ∧ tile.corners = ps := by
  rcases Center.resolve_cases Rat o.center .two with ⟨letters, hletters, he⟩ | ⟨flags, hf⟩
  · left
    have hrect : Dimension.resolveRect o.sizeX o.sizeY o.center = .error (.invalidCenter letters .two) := by
      rw [Dimension.resolveRect, he]
      rfl
    refine ⟨letters, hletters, ?_, ?_⟩
    · rw [Outline.points, hrect]
      rfl
    · rw [Outline.lattice_points, hrect]
      rfl
  · right
    obtain ⟨region, hregion⟩ : ∃ region, Dimension.resolveRect o.sizeX o.sizeY o.center = .ok region :=
      ⟨_, resolveRect_eq_ok.2 ⟨flags, hf, rfl⟩⟩
    have houtline : o.points = .ok region.corners := by
      rw [Outline.points, hregion]
      rfl
    have hlattice : o.lattice.points =
        .ok (pairs Point.mk [region.x.min, region.x.max] [region.y.min, region.y.max]) := by
      rw [Outline.lattice_points, hregion]
      rfl
    refine ⟨region, _, _, hregion, houtline, hlattice, rfl, corners_perm region, shoelace_corners region, ?_⟩
    rintro s rfl hx hy hpx hpy
    exact ⟨region, Stretch.tiles_one hregion hx hy hpx hpy, rfl⟩

/-- An outline across a range that is given upside down, with a negative height that is centered. -/
def flipped : Outline Rat := ⟨.range 4 (-1), .size (-3), .axes "y"⟩

/-- One tile in the same region, with gaps and bounds that a single tile has no use for. -/
def oneTile : Stretch Rat where
  x := { size := .range 4 (-1), count := some 1, maxTile := some 2, spacing := 7 }
  y := { size := .size (-3), count := some 1, spacing := -1 / 2 }
  center := .axes "y"

theorem flipped_outline_corners :
    (oneTile.outline = flipped ∧ oneTile.x.count = some 1 ∧ oneTile.y.count = some 1) ∧
      ∃ ps qs tile, flipped.points = .ok ps ∧ flipped.lattice.points = .ok qs ∧ ps.Perm qs ∧ shoelace ps = -15 ∧
        oneTile.tiles = .ok [tile] ∧ tile.corners = ps := by
  have hregion : Dimension.resolveRect flipped.sizeX flipped.sizeY flipped.center = .ok ⟨⟨-1, 4⟩, ⟨-3 / 2, 3 / 2⟩⟩ :=
    eq_ok_of_toOption (by decide +kernel)
  rcases corners_three_ways flipped with ⟨letters, -, he, -⟩ | ⟨region, ps, qs, hr, hps, hqs, -, hperm, harea, htile⟩
  · rw [Outline.points, hregion] at he
    cases he
  · rw [hregion] at hr
    cases hr
    obtain ⟨tile, ht, hcorners⟩ := htile oneTile rfl rfl rfl (by decide +kernel) (by decide +kernel)
    exact ⟨⟨rfl, rfl, rfl⟩, ps, qs, tile, hps, hqs, hperm, harea.trans (by decide +kernel), ht, hcorners⟩

end SketchLayout
