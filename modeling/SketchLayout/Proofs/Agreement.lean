import SketchLayout.Proofs.Fill

/-!
# Four ways to the same tiles

A number of tiles along an axis is given, or it is derived from an upper bound on their size, from a
lower one, or from the size itself and a clearance. Once tiles of some size fill an extent, all four
agree: the extent with one gap more holds exactly that number of tiles with theirs (`ratio_eq_count`),
and at a whole ratio the fewest tiles that cover it, the most that fit and the most that can be
distributed are one number (`fill_asks`, `asked_clear`). `fills_agree` says it of whole layouts.
-/

namespace SketchLayout

/-! ## Whole ratios -/

namespace Reach

theorem fitting_natCast (n : Nat) : (Reach.finite (n : Rat)).fitting = some n := by
  show some ((n : Int) : Rat).floor.toNat = some n
  rw [Rat.floor_intCast, Int.toNat_natCast]

theorem covering_natCast (n : Nat) : (Reach.finite (n : Rat)).covering = some n := by
  show some ((n : Int) : Rat).ceil.toNat = some n
  rw [Rat.ceil_intCast, Int.toNat_natCast]

end Reach

/-! ## One axis -/

namespace StretchAxis

section
variable {a : Axis} {s : StretchAxis Rat} {e : Interval Rat} {f : Fill Rat}

theorem step_pos (hp : f.Placeable) (hs : 0 ≤ s.spacing) : 0 < f.tile + s.spacing := by
  have := hp.tile_pos_rat
  linarith

variable (hf : s.fill a e.size = .ok f) (hp : f.Placeable) (hs : 0 ≤ s.spacing)
include hf hp

/-- The tiles, each with one gap, add up to the extent with one gap more. -/
theorem count_mul_step : f.count * (f.tile + s.spacing) = e.size + s.spacing := by
  have hn : (f.count : Rat) ≠ 0 := Nat.cast_ne_zero.2 hp.count_ne
  rw [tile_of_fill hf hp, tileShare]
  field_simp
  ring

include hs

/-- **The ratio is the count**, whatever the tiles were derived from. -/
theorem ratio_eq_count : s.ratio e.size f.tile = f.count := by
  rw [ratio, ← count_mul_step hf hp, mul_div_cancel_right₀ _ (step_pos hp hs).ne']

theorem tile_le_size : f.tile ≤ e.size := by
  have hone : (1 : Rat) ≤ f.count := by exact_mod_cast Nat.one_le_iff_ne_zero.2 hp.count_ne
  have hstep : f.tile + s.spacing ≤ f.count * (f.tile + s.spacing) :=
    le_mul_of_one_le_left (step_pos hp hs).le hone
  rw [count_mul_step hf hp] at hstep
  linarith

/-- There is room for the tiles, so that deriving their number again does not empty them. -/
theorem derived_eq : Fill.derived f.count e.size s.spacing = f := by
  have htile := hp.tile_pos_rat
  have hsize := tile_le_size hf hp hs
  have hroom : ¬ e.size ≤ 0 := by linarith
  have hroom' : ¬ f.tile ≤ 0 := by linarith
  unfold Fill.derived
  simp only [← fill_eq_stretched hf, le_rat, zero_rat, hroom, hroom']
  rfl

theorem fewest_eq : s.fewest a e.size f.tile = .ok f := by
  rw [fewest_eq_ok, ratio_eq_count hf hp hs]
  exact ⟨f.count, ⟨Reach.covering_natCast f.count, hp.count_le⟩, derived_eq hf hp hs⟩

theorem most_eq : s.most a e.size f.tile = .ok f := by
  rw [most_eq_ok, ratio_eq_count hf hp hs]
  exact ⟨f.count, ⟨Reach.fitting_natCast f.count, hp.count_le⟩, derived_eq hf hp hs⟩

end

/-- The axis as it is, or with the size of a tile as the only thing to go by: as the most that a tile
may be, or as the least. -/
inductive Asks (s : StretchAxis Rat) (tile : Rat) : StretchAxis Rat → Prop
  | asBefore : Asks s tile s
  | atMost : Asks s tile { s with count := none, minTile := none, maxTile := some tile }
  | atLeast : Asks s tile { s with count := none, minTile := some tile, maxTile := none }

variable {a : Axis} {s s' : StretchAxis Rat} {e : Interval Rat} {f : Fill Rat}

theorem Asks.size_eq {tile : Rat} (h : s.Asks tile s') : s'.size = s.size := by cases h <;> rfl

/-- Asked for by the size of its tiles, an axis takes the same tiles. -/
theorem fill_asks (hf : s.fill a e.size = .ok f) (hp : f.Placeable) (hs : 0 ≤ s.spacing)
    (h : s.Asks f.tile s') : s'.fill a e.size = .ok f := by
  cases h with
  | asBefore => exact hf
  | atMost =>
    show s.fewest a e.size f.tile = .ok f
    exact fewest_eq hf hp hs
  | atLeast =>
    have hroom : ¬ e.size < f.tile := not_lt.2 (tile_le_size hf hp hs)
    unfold fill
    simp only [lt_rat, hroom, decide_false, Bool.false_eq_true, ↓reduceIte]
    show s.most a e.size f.tile = .ok f
    exact most_eq hf hp hs

theorem spans_asks {tile : Rat} (h : s.Asks tile s') (f : Fill Rat) (e : Interval Rat) :
    s'.spans f e = s.spans f e := by
  rw [spans, spans, h.size_eq]

theorem size_of_mem_spans (hp : f.Placeable) {i : Interval Rat} (hi : i ∈ s.spans f e) : i.size = f.tile := by
  rw [spans_eq s f e hp.tile_pos_rat] at hi
  obtain ⟨k, -, rfl⟩ := List.mem_map.1 hi
  rw [Interval.size_rat, add_sub_cancel_left]

/-- The axis of a distribution of tiles of some size, no closer than the spacing. -/
def clear (s : StretchAxis Rat) (tile : Rat) : DistributeAxis Rat := ⟨s.size, tile, none, s.spacing⟩

/-- As many tiles as fit with the spacing between them are as many as fill the extent. -/
theorem asked_clear (hf : s.fill a e.size = .ok f) (hp : f.Placeable) (hs : 0 ≤ s.spacing) :
    (s.clear f.tile).asked e = some f.count := by
  have hratio : (e.size + s.spacing) / (f.tile + s.spacing) = f.count := ratio_eq_count hf hp hs
  show (Reach.finite ((e.size + s.spacing) / (f.tile + s.spacing))).fitting = some f.count
  rw [hratio, Reach.fitting_natCast]

/-- The distribution stands where the tiles begin. -/
theorem positions_clear (hp : f.Placeable) (e : Interval Rat) :
    (s.clear f.tile).positions .origin e f.count = (s.spans f e).map Interval.min := by
  rw [positions_eq, spans_eq s f e hp.tile_pos_rat, List.map_map]
  apply List.map_congr_left
  intro k _
  exact add_zero _

end StretchAxis

/-! ## Layouts -/

namespace Stretch
variable {s : Stretch Rat} {region : Rect Rat} {fx fy : Fill Rat}

theorem Fills.asks (h : s.Fills region fx fy) (hx : 0 ≤ s.x.spacing) (hy : 0 ≤ s.y.spacing)
    {x y : StretchAxis Rat} (hax : s.x.Asks fx.tile x) (hay : s.y.Asks fy.tile y) :
    Fills ⟨x, y, s.center⟩ region fx fy where
  settles := by
    refine ⟨?_, StretchAxis.fill_asks h.settles.2 h.place_x hx hax⟩
    rw [hax.size_eq, hay.size_eq]
    exact h.settles.1
  fill_y := StretchAxis.fill_asks h.fill_y h.place_y hy hay
  place_x := h.place_x
  place_y := h.place_y
  total := h.total

/-- The distribution of tiles of given sizes over the region, no closer than the spacing. -/
def distribution (s : Stretch Rat) (tileX tileY : Rat) : Distribute Rat where
  x := s.x.clear tileX
  y := s.y.clear tileY
  center := s.center
  anchor := .origin

theorem Fills.distribution (h : s.Fills region fx fy) (hx : 0 ≤ s.x.spacing) (hy : 0 ≤ s.y.spacing) :
    (s.distribution fx.tile fy.tile).points =
      .ok (pairs Point.mk ((s.x.spans fx region.x).map Interval.min) ((s.y.spans fy region.y).map Interval.min)) := by
  rw [Distribute.points_of_asked h.place_x.tile_pos h.place_y.tile_pos h.settles.1
    (StretchAxis.asked_clear h.settles.2 h.place_x hx) (StretchAxis.asked_clear h.fill_y h.place_y hy),
    if_neg h.place_x.count_le.not_gt, if_neg h.place_y.count_le.not_gt, if_neg h.total.not_gt]
  rw [← StretchAxis.positions_clear h.place_x, ← StretchAxis.positions_clear h.place_y]
  rfl

end Stretch

/-- **Stretching, bounding and distributing agree on a fill.** Without negative spacing, tiles that come
out have one size per axis. They come out again, in the same order, when on either axis that size
stands in the place of the count and the bounds, as the upper bound or as the lower one; and the
distribution of tiles of that size, with the spacing as clearance, gives their least corners. -/
theorem fills_agree (s : Stretch Rat) (hx : 0 ≤ s.x.spacing) (hy : 0 ≤ s.y.spacing) (tiles : List (Rect Rat))
    (h : s.tiles = .ok tiles) (hne : tiles ≠ []) :
    ∃ tx ty, (∀ t ∈ tiles, t.x.size = tx ∧ t.y.size = ty) ∧
      (∀ x y, s.x.Asks tx x → s.y.Asks ty y → (⟨x, y, s.center⟩ : Stretch Rat).tiles = .ok tiles) ∧
      (s.distribution tx ty).points = .ok (tiles.map Rect.minCorner) := by
  obtain ⟨region, fx, fy, hf, rfl⟩ := Stretch.fills_of_tiles h hne
  refine ⟨fx.tile, fy.tile, fun t ht => ?_, fun x y hax hay => ?_, ?_⟩
  · obtain ⟨i, hi, j, hj, rfl⟩ := mem_pairs.1 ht
    exact ⟨StretchAxis.size_of_mem_spans hf.place_x hi, StretchAxis.size_of_mem_spans hf.place_y hj⟩
  · rw [Stretch.tiles_of_fills (hf.asks hx hy hax hay), StretchAxis.spans_asks hax, StretchAxis.spans_asks hay]
  · rw [hf.distribution hx hy, pairs_map, map_pairs]
    rfl

/-- Three columns, the fewest that stay below a size, by two rows with a wider gap. -/
def cappedX : Stretch Rat where
  x := { size := .size 10, minTile := some 1, maxTile := some 4, spacing := 1 / 2 }
  y := { size := .range 5 (-1), count := some 2, spacing := 1 }
  center := .axes "x"

theorem capped_columns_agree :
    (0 ≤ cappedX.x.spacing ∧ 0 ≤ cappedX.y.spacing) ∧
      ∃ tiles, cappedX.tiles = .ok tiles ∧ tiles ≠ [] ∧
        ∃ tx ty, (∀ t ∈ tiles, t.x.size = tx ∧ t.y.size = ty) ∧
          (∀ x y, cappedX.x.Asks tx x → cappedX.y.Asks ty y →
            (⟨x, y, cappedX.center⟩ : Stretch Rat).tiles = .ok tiles) ∧
          (cappedX.distribution tx ty).points = .ok (tiles.map Rect.minCorner) := by
  have hx : 0 ≤ cappedX.x.spacing := by decide +kernel
  have hy : 0 ≤ cappedX.y.spacing := by decide +kernel
  have htiles : cappedX.tiles = .ok
      [⟨⟨-5, -2⟩, ⟨-1, 3 / 2⟩⟩, ⟨⟨-5, -2⟩, ⟨5 / 2, 5⟩⟩, ⟨⟨-3 / 2, 3 / 2⟩, ⟨-1, 3 / 2⟩⟩,
        ⟨⟨-3 / 2, 3 / 2⟩, ⟨5 / 2, 5⟩⟩, ⟨⟨2, 5⟩, ⟨-1, 3 / 2⟩⟩, ⟨⟨2, 5⟩, ⟨5 / 2, 5⟩⟩] := by decide +kernel
  exact ⟨⟨hx, hy⟩, _, htiles, List.cons_ne_nil _ _,
    fills_agree cappedX hx hy _ htiles (List.cons_ne_nil _ _)⟩

end SketchLayout
