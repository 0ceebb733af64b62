import SketchLayout.Proofs.Capacity

/-!
# Distributed tiles are spread evenly

A single tile is placed from the middle of its extent, several are placed in steps from its beginning, and
either is reported by the middle of the tile or by its beginning. `DistributeAxis.Spread` is the one picture
behind these four formulas: equal steps, the same seen from either end of the extent, and tiles that reach
from end to end or, when there is only one, stand in the middle. Nothing has to fit: tiles that are longer
than their extent overlap, and their steps go backwards. The anchor says which place of a tile is reported
and changes neither the tiles nor their number (`Distribute.points_anchored`).
-/

namespace SketchLayout

/-! ## One axis -/

/-- The `k`-th of `n` tiles begins as far above the beginning of the extent as the `k`-th from the end
ends below its end. -/
theorem Interval.tileStart_mirrored (e : Interval Rat) (tile : Rat) {n k : Nat} (hk : k < n) :
    e.tileStart tile n k - e.min = e.max - (e.tileStart tile n (n - 1 - k) + tile) := by
  by_cases h1 : n = 1
  · subst h1
    rw [tileStart_one, tileStart_one]
    ring
  · have hn : (1 : Rat) < n := by
      have hn' : 1 < n := by omega
      exact_mod_cast hn'
    have hgaps : (n : Rat) - 1 ≠ 0 := by linarith
    have hindex : ((n - 1 - k : Nat) : Rat) = (n : Rat) - 1 - k := by
      rw [Nat.cast_sub (by omega), Nat.cast_sub (by omega), Nat.cast_one]
    rw [tileStart, tileStart, if_neg h1, if_neg h1, hindex]
    field_simp
    ring

/-- The `k`-th of the `count` tiles that an axis takes in an extent has its position at `place k`. The
positions stand in equal steps; those of middles mirror each other about the middle of the extent. Two
tiles or more reach from end to end, and a single one stands in the middle. -/
structure DistributeAxis.Spread (a : Axis) (d : DistributeAxis Rat) (anchor : Anchor) (e : Interval Rat)
    (count : Nat) (place : Nat → Rat) : Prop where
  takes : d.countIn a e = .ok count
  listed : d.positions anchor e count = (List.range count).map place
  even : ∀ k l, k + 1 < count → l + 1 < count → place (k + 1) - place k = place (l + 1) - place l
  mirrored : anchor = .center → ∀ k < count, place k + place (count - 1 - k) = e.min + e.max
  first : 2 ≤ count → (anchor.tile d.tileSize (place 0)).min = e.min
  last : 2 ≤ count → (anchor.tile d.tileSize (place (count - 1))).max = e.max
  single : count = 1 → (anchor.tile d.tileSize (place 0)).center = e.center

namespace DistributeAxis
variable {a : Axis} {d : DistributeAxis Rat} {e : Interval Rat} {n : Nat}

/-- **Whatever number of tiles an axis takes, it spreads them evenly.** -/
theorem spread_of_countIn (hn : d.countIn a e = .ok n) (anchor : Anchor) :
    d.Spread a anchor e n fun k => e.tileStart d.tileSize n k + anchor.offset d.tileSize where
  takes := hn
  listed := positions_eq d anchor e n
  even k l hk hl := by
    rw [e.tileStart_succ d.tileSize (by omega), e.tileStart_succ d.tileSize (by omega)]
    ring
  mirrored hcenter k hk := by
    subst hcenter
    have hmirror := e.tileStart_mirrored d.tileSize hk
    simp only [Anchor.offset]
    linarith
  first hn := by
    rw [tile_offset]
    exact e.tileStart_zero d.tileSize (by omega)
  last hn := by
    rw [tile_offset]
    exact e.tileStart_last d.tileSize (by omega)
  single hn := by
    subst hn
    rw [tile_offset, Interval.center_rat, Interval.center_rat]
    simp only [Interval.tileStart_one]
    ring

/-- The beginnings of the tiles are half a tile below their middles. -/
theorem positions_origin (d : DistributeAxis Rat) (e : Interval Rat) (n : Nat) :
    d.positions .origin e n = (d.positions .center e n).map fun p => p - d.tileSize / 2 := by
  rw [positions_eq, positions_eq, List.map_map]
  apply List.map_congr_left
  intro k _
  simp only [Function.comp_apply, Anchor.offset]
  ring

end DistributeAxis

/-! ## Two axes -/

/-- A distribution that has points has them under either anchor: the anchor is read for positions only. -/
theorem Distribute.points_anchored {α : Type} [Scalar α] {d : Distribute α} {points : List (Point α)}
    (h : d.points = .ok points) :
    ∃ region nx ny, Dimension.resolveRect d.x.size d.y.size d.center = .ok region ∧
      d.x.countIn .x region.x = .ok nx ∧ d.y.countIn .y region.y = .ok ny ∧
      points = pairs Point.mk (d.x.positions d.anchor region.x nx) (d.y.positions d.anchor region.y ny) ∧
      ∀ anchor : Anchor, { d with anchor := anchor }.points =
        .ok (pairs Point.mk (d.x.positions anchor region.x nx) (d.y.positions anchor region.y ny)) := by
  obtain ⟨htiles, region, nx, ny, hr, hnx, hny, htotal, hpoints⟩ := Distribute.points_eq_ok.1 h
  refine ⟨region, nx, ny, hr, hnx, hny, hpoints, fun anchor => ?_⟩
  exact Distribute.points_eq_ok.2 ⟨htiles, region, nx, ny, hr, hnx, hny, htotal, rfl⟩

/-- The place half a tile below another, along either axis. -/
def Distribute.halfTileBelow (d : Distribute Rat) (p : Point Rat) : Point Rat :=
  ⟨p.x - d.x.tileSize / 2, p.y - d.y.tileSize / 2⟩

/-- **Distributed tiles are spread evenly.** Whenever points come out, either axis spreads as many tiles as
it takes evenly over its extent, and the point at `i * ny + j` is the `i`-th position along X by the `j`-th
along Y. Middles and beginnings come out alike, as many of these as of those and in the same order, each
beginning half a tile below its middle along either axis. -/
theorem distributed_tiles_spread (d : Distribute Rat) (points : List (Point Rat)) (h : d.points = .ok points) :
    ∃ region nx ny x y, Dimension.resolveRect d.x.size d.y.size d.center = .ok region ∧
      d.x.Spread .x d.anchor region.x nx x ∧ d.y.Spread .y d.anchor region.y ny y ∧
      points.length = nx * ny ∧ (∀ i < nx, ∀ j < ny, points[i * ny + j]? = some ⟨x i, y j⟩) ∧
      ∃ middles, { d with anchor := .center }.points = .ok middles ∧
        { d with anchor := .origin }.points = .ok (middles.map d.halfTileBelow) := by
  obtain ⟨region, nx, ny, hr, hnx, hny, rfl, hanchored⟩ := Distribute.points_anchored h
  refine ⟨region, nx, ny, _, _, hr, DistributeAxis.spread_of_countIn hnx d.anchor,
    DistributeAxis.spread_of_countIn hny d.anchor, by simp, fun i hi j hj => ?_, _, hanchored .center, ?_⟩
  · have hitem := getElem?_pairs_of Point.mk (getElem?_positions d.x d.anchor region.x hi)
      (getElem?_positions d.y d.anchor region.y hj)
    rwa [DistributeAxis.length_positions] at hitem
  · rw [hanchored .origin, DistributeAxis.positions_origin, DistributeAxis.positions_origin, pairs_map, map_pairs]
    rfl

/-- Four tiles that are longer than the region is wide, one before the other, by one row in the middle. -/
def overlong : Distribute Rat where
  x := { size := .size 3, tileSize := 5, count := some 4, minSpacing := -7 }
  y := { size := .range 5 (-1), tileSize := 4, minSpacing := 1 / 2 }
  center := .axes "x"

/-- The columns step backwards by two thirds. -/
theorem overlong_tiles_spread :
    ∃ points, overlong.points = .ok points ∧ points = [⟨1, 2⟩, ⟨1 / 3, 2⟩, ⟨-1 / 3, 2⟩, ⟨-1, 2⟩] ∧
      ∃ region nx ny x y, Dimension.resolveRect overlong.x.size overlong.y.size overlong.center = .ok region ∧
        overlong.x.Spread .x overlong.anchor region.x nx x ∧ overlong.y.Spread .y overlong.anchor region.y ny y ∧
        points.length = nx * ny ∧ (∀ i < nx, ∀ j < ny, points[i * ny + j]? = some ⟨x i, y j⟩) ∧
        ∃ middles, { overlong with anchor := .center }.points = .ok middles ∧
          { overlong with anchor := .origin }.points = .ok (middles.map overlong.halfTileBelow) := by
  have hpoints : overlong.points = .ok [⟨1, 2⟩, ⟨1 / 3, 2⟩, ⟨-1 / 3, 2⟩, ⟨-1, 2⟩] := by decide +kernel
  exact ⟨_, hpoints, rfl, distributed_tiles_spread overlong _ hpoints⟩

end SketchLayout
