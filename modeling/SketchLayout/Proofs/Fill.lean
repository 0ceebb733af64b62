import SketchLayout.Proofs.Placement

/-!
# Stretched tiles fill their region

The size of a stretched tile, its `tileShare`, is computed before and apart from the places of the
tiles. `Spans` says that the two agree: on each axis the first tile begins where the extent begins, the
last ends where it ends, and the gap between neighbours is the spacing that was asked for.
-/

namespace SketchLayout

/-- `count` tiles of one size, the `k`-th beginning at `start k`, reach from one end of an extent to
the other with the same gap between neighbours. -/
structure Spans (extent : Interval Rat) (gap : Rat) (count : Nat) (tile : Rat) (start : Nat → Rat) : Prop where
  count_pos : 1 ≤ count
  tile_pos : 0 < tile
  first : start 0 = extent.min
  last : start (count - 1) + tile = extent.max
  gaps : ∀ k, k + 1 < count → start (k + 1) - (start k + tile) = gap

namespace Spans
variable {e : Interval Rat} {gap tile : Rat} {n : Nat} {start : Nat → Rat}

/-- The tiles stand in equal steps. -/
theorem start_eq (h : Spans e gap n tile start) : ∀ k, k < n → start k = e.min + k * (tile + gap)
  | 0, _ => by rw [h.first]; simp
  | k + 1, hk => by
    have hgap := h.gaps k hk
    have ih := start_eq h k (by omega)
    push_cast
    linarith

/-- An earlier tile ends before a later one begins. -/
theorem apart (h : Spans e gap n tile start) (hgap : 0 ≤ gap) {k l : Nat} (hkl : k < l) (hl : l < n) :
    start k + tile ≤ start l := by
  have hstep : (k : Rat) + 1 ≤ l := by exact_mod_cast hkl
  have hpos : 0 ≤ tile + gap := by linarith [h.tile_pos]
  have hle : ((k : Rat) + 1) * (tile + gap) ≤ l * (tile + gap) := mul_le_mul_of_nonneg_right hstep hpos
  rw [h.start_eq k (by omega), h.start_eq l hl]
  linarith

/-- No tile sticks out. -/
theorem inside (h : Spans e gap n tile start) (hgap : 0 ≤ gap) {k : Nat} (hk : k < n) :
    e.min ≤ start k ∧ start k + tile ≤ e.max := by
  constructor
  · rcases Nat.eq_zero_or_pos k with rfl | hpos
    · exact h.first.ge
    · have := h.apart hgap hpos hk
      linarith [h.first, h.tile_pos]
  · rcases Nat.lt_or_ge k (n - 1) with hlt | hge
    · have := h.apart hgap hlt (by omega)
      linarith [h.last, h.tile_pos]
    · rw [show k = n - 1 by omega]
      exact h.last.le

/-- Without gaps every place up to the end of the `m`-th tile is on one of the tiles. -/
theorem exists_tile_le (h : Spans e 0 n tile start) {v : Rat} (hv : e.min ≤ v) :
    ∀ m, m < n → v ≤ start m + tile → ∃ k < n, start k ≤ v ∧ v ≤ start k + tile
  | 0, hm, hle => ⟨0, hm, h.first ▸ hv, hle⟩
  | m + 1, hm, hle => by
    by_cases hs : start (m + 1) ≤ v
    · exact ⟨m + 1, hm, hs, hle⟩
    · have hgap := h.gaps m hm
      exact exists_tile_le h hv m (by omega) (by linarith)

/-- Without gaps the sizes of the tiles add up to the extent. -/
theorem total (h : Spans e 0 n tile start) : n * tile = e.max - e.min := by
  have hpos := h.count_pos
  have hlast := h.last
  rw [h.start_eq (n - 1) (by omega), Nat.cast_sub hpos] at hlast
  push_cast at hlast
  linarith

end Spans

/-- The size at which `n` tiles, with a gap between neighbours, fill an extent. -/
def tileShare (extent gap : Rat) (n : Nat) : Rat := (extent + gap) / n - gap

theorem tileShare_one (extent gap : Rat) : tileShare extent gap 1 = extent := by
  simp [tileShare]

/-- The stretched size of a tile is its share: tiles and gaps add up to the extent. -/
theorem stretched_tile {n : Nat} (hn : n ≠ 0) (extent gap : Rat) :
    (Fill.stretched n extent gap).tile = tileShare extent gap n := by
  rw [tileShare, add_comm extent]
  simp only [Fill.stretched, hn, ↓reduceIte]
  rfl

/-- **Size and place agree**: tiles of the stretched size span the extent from their starts. -/
theorem spans_tileStart {n : Nat} (hn : n ≠ 0) (e : Interval Rat) (gap tile : Rat)
    (ht : tile = tileShare (e.max - e.min) gap n) (hpos : 0 < tile) :
    Spans e gap n tile (e.tileStart tile n) := by
  by_cases h1 : n = 1
  · subst h1
    have htile : tile = e.max - e.min := by rw [ht, tileShare_one]
    refine ⟨le_rfl, hpos, ?_, ?_, fun k hk => by omega⟩
    · rw [Interval.tileStart_one, htile]; ring
    · rw [Interval.tileStart_one, htile]; ring
  · have hn1 : (1 : Rat) < n := by exact_mod_cast (by omega : 1 < n)
    refine ⟨by omega, hpos, e.tileStart_zero tile h1, e.tileStart_last tile (by omega), fun k _ => ?_⟩
    -- the step from tile to tile is the stretched size with one gap
    have hstep : (e.max - e.min - tile) / ((n : Rat) - 1) = tile + gap := by
      have hn0 : (n : Rat) ≠ 0 := by linarith
      have hgaps : (n : Rat) - 1 ≠ 0 := by linarith
      rw [ht, tileShare]; field_simp; ring
    rw [Interval.tileStart_succ e tile h1, hstep]; ring

/-- The spans of a fill, one interval per tile. -/
theorem spans_eq (s : StretchAxis Rat) (f : Fill Rat) (e : Interval Rat) (hpos : 0 < f.tile) :
    s.spans f e = (List.range f.count).map fun k =>
      ⟨e.tileStart f.tile f.count k, e.tileStart f.tile f.count k + f.tile⟩ := by
  rw [StretchAxis.spans, positions_eq, List.map_map]
  apply List.map_congr_left
  intro k _
  have hle : e.tileStart f.tile f.count k ≤ e.tileStart f.tile f.count k + f.tile := by linarith
  simp [Anchor.offset, Interval.new_of_le hle]

theorem getElem?_spans (s : StretchAxis Rat) {f : Fill Rat} (e : Interval Rat) (hpos : 0 < f.tile) {k : Nat}
    (hk : k < f.count) :
    (s.spans f e)[k]? = some ⟨e.tileStart f.tile f.count k, e.tileStart f.tile f.count k + f.tile⟩ := by
  simp [spans_eq s f e hpos, hk]

theorem Fill.Placeable.tile_pos_rat {f : Fill Rat} (h : f.Placeable) : 0 < f.tile := by
  simpa using h.tile_pos

/-- Whatever they are derived from, the tiles that an axis takes have their share. -/
theorem tile_of_fill {a : Axis} {s : StretchAxis Rat} {extent : Rat} {f : Fill Rat}
    (hf : s.fill a extent = .ok f) (hp : f.Placeable) : f.tile = tileShare extent s.spacing f.count := by
  have htile := congrArg Fill.tile (StretchAxis.fill_eq_stretched hf)
  rwa [stretched_tile hp.count_ne] at htile

/-- An axis that takes tiles is spanned by them. -/
theorem spans_of_fill {a : Axis} {s : StretchAxis Rat} {e : Interval Rat} {f : Fill Rat}
    (hf : s.fill a e.size = .ok f) (hp : f.Placeable) :
    Spans e s.spacing f.count f.tile (e.tileStart f.tile f.count) := by
  have ht := tile_of_fill hf hp
  rw [Interval.size_rat] at ht
  exact spans_tileStart hp.count_ne e s.spacing f.tile ht hp.tile_pos_rat

/-- **Stretched tiles fill the region exactly.** Whenever tiles come out, there are counts and tile
sizes for the two axes at which the tile at `i * ny + j` is the `i`-th along X by the `j`-th along Y,
and either axis is spanned from end to end with the spacing of that axis as the gap. -/
theorem tiles_fill_region (s : Stretch Rat) (tiles : List (Rect Rat)) (h : s.tiles = .ok tiles)
    (hne : tiles ≠ []) :
    ∃ region nx ny tx ty x y,
      Dimension.resolveRect s.x.size s.y.size s.center = .ok region ∧
        Spans region.x s.x.spacing nx tx x ∧ Spans region.y s.y.spacing ny ty y ∧
        tiles.length = nx * ny ∧
        ∀ i < nx, ∀ j < ny, tiles[i * ny + j]? = some ⟨⟨x i, x i + tx⟩, ⟨y j, y j + ty⟩⟩ := by
  obtain ⟨region, fx, fy, hf, rfl⟩ := Stretch.fills_of_tiles h hne
  refine ⟨region, fx.count, fy.count, fx.tile, fy.tile, region.x.tileStart fx.tile fx.count,
    region.y.tileStart fy.tile fy.count, hf.settles.1, spans_of_fill hf.settles.2 hf.place_x,
    spans_of_fill hf.fill_y hf.place_y, by simp, fun i hi j hj => ?_⟩
  have hitem := getElem?_pairs_of Rect.mk (getElem?_spans s.x region.x hf.place_x.tile_pos_rat hi)
    (getElem?_spans s.y region.y hf.place_y.tile_pos_rat hj)
  rwa [StretchAxis.length_spans] at hitem

/-- Three columns with gaps by two rows that overlap, the rows from a range given upside down. -/
def overlappingRows : Stretch Rat where
  x := { size := .size 10, count := some 3, spacing := 1 }
  y := { size := .range 5 (-1), maxTile := some 4, spacing := -1 / 2 }
  center := .axes "x"

theorem overlapping_rows_fill_region :
    ∃ tiles, overlappingRows.tiles = .ok tiles ∧ tiles ≠ [] ∧
      ∃ region nx ny tx ty x y,
        Dimension.resolveRect overlappingRows.x.size overlappingRows.y.size overlappingRows.center = .ok region ∧
          Spans region.x overlappingRows.x.spacing nx tx x ∧ Spans region.y overlappingRows.y.spacing ny ty y ∧
          tiles.length = nx * ny ∧
          ∀ i < nx, ∀ j < ny, tiles[i * ny + j]? = some ⟨⟨x i, x i + tx⟩, ⟨y j, y j + ty⟩⟩ := by
  have htiles : overlappingRows.tiles = .ok
      [⟨⟨-5, -7 / 3⟩, ⟨-1, 9 / 4⟩⟩, ⟨⟨-5, -7 / 3⟩, ⟨7 / 4, 5⟩⟩,
        ⟨⟨-4 / 3, 4 / 3⟩, ⟨-1, 9 / 4⟩⟩, ⟨⟨-4 / 3, 4 / 3⟩, ⟨7 / 4, 5⟩⟩,
        ⟨⟨7 / 3, 5⟩, ⟨-1, 9 / 4⟩⟩, ⟨⟨7 / 3, 5⟩, ⟨7 / 4, 5⟩⟩] := by decide +kernel
  exact ⟨_, htiles, List.cons_ne_nil _ _, tiles_fill_region overlappingRows _ htiles (List.cons_ne_nil _ _)⟩

end SketchLayout
