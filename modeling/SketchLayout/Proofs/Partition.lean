import Mathlib.Algebra.BigOperators.Ring.List
import SketchLayout.Proofs.Fill

/-!
# Stretched tiles without gaps

With no spacing the tiles of a stretch cut the region up: they cover it, none sticks out, no two
overlap in more than a side, and their areas add up. Each axis is cut up by its own intervals
(`Interval.Split`), and the product of two such cuts is one of the rectangle (`partition_pairs`).
-/

namespace SketchLayout

/-! ## Cutting up an interval -/

/-- `parts` cuts an interval up, from its lower end to its upper. -/
structure Interval.Split (e : Interval Rat) (parts : List (Interval Rat)) : Prop where
  covers : ∀ v, e.contains v → ∃ i ∈ parts, i.contains v
  inside : ∀ i ∈ parts, ∀ v, i.contains v → e.contains v
  apart : ∀ k l : Nat, k < l → ∀ i j : Interval Rat, parts[k]? = some i → parts[l]? = some j → i.max ≤ j.min
  total : (parts.map Interval.size).sum = e.size

/-- Tiles that span an extent without gaps cut it up. -/
theorem split_of_spans {e : Interval Rat} {tile : Rat} {n : Nat} {start : Nat → Rat}
    (h : Spans e 0 n tile start) :
    e.Split ((List.range n).map fun k => ⟨start k, start k + tile⟩) where
  covers v hv := by
    obtain ⟨hlo, hhi⟩ := Interval.contains_rat.1 hv
    have hpos := h.count_pos
    obtain ⟨k, hk, hkv⟩ := h.exists_tile_le hlo (n - 1) (by omega) (by rw [h.last]; exact hhi)
    exact ⟨_, List.mem_map_of_mem (List.mem_range.2 hk), Interval.contains_rat.2 hkv⟩
  inside i hi v hv := by
    obtain ⟨k, hk, rfl⟩ := List.mem_map.1 hi
    obtain ⟨hmin, hmax⟩ := h.inside le_rfl (List.mem_range.1 hk)
    obtain ⟨hlo, hhi⟩ := Interval.contains_rat.1 hv
    exact Interval.contains_rat.2 ⟨hmin.trans hlo, hhi.trans hmax⟩
  apart k l hkl i j hi hj := by
    obtain ⟨hln, rfl⟩ := List.getElem?_eq_some_iff.1 hj
    obtain ⟨hkn, rfl⟩ := List.getElem?_eq_some_iff.1 hi
    simp only [List.getElem_map, List.getElem_range]
    exact h.apart le_rfl hkl (by simpa using hln)
  total := by
    have hsize : ∀ k : Nat, Interval.size (⟨start k, start k + tile⟩ : Interval Rat) = tile := by
      intro k; rw [Interval.size_rat]; ring
    rw [List.map_map, Interval.size_rat, ← h.total]
    simp [Function.comp_def, hsize]

/-! ## Cutting up a rectangle -/

/-- The points of a rectangle that do not lie on a side. -/
def Rect.Interior (r : Rect Rat) (p : Point Rat) : Prop :=
  (r.x.min < p.x ∧ p.x < r.x.max) ∧ r.y.min < p.y ∧ p.y < r.y.max

/-- `tiles` cuts a rectangle up. -/
structure Rect.Partition (r : Rect Rat) (tiles : List (Rect Rat)) : Prop where
  covers : ∀ p, r.contains p → ∃ t ∈ tiles, t.contains p
  inside : ∀ t ∈ tiles, ∀ p, t.contains p → r.contains p
  disjoint : ∀ k l : Nat, k ≠ l → ∀ t u : Rect Rat, tiles[k]? = some t → tiles[l]? = some u →
    ∀ p, ¬ (t.Interior p ∧ u.Interior p)
  area : (tiles.map Rect.area).sum = r.area

theorem contains_iff {r : Rect Rat} {p : Point Rat} : r.contains p ↔ r.x.contains p.x ∧ r.y.contains p.y := by
  simp [Rect.contains]

/-- The areas of a product of intervals add up to the product of what the sizes add up to. -/
theorem sum_area_pairs (xs ys : List (Interval Rat)) :
    ((pairs Rect.mk xs ys).map Rect.area).sum = (xs.map Interval.size).sum * (ys.map Interval.size).sum := by
  induction xs with
  | nil => simp
  | cons x xs ih =>
    have hrow : ((ys.map (Rect.mk x)).map Rect.area).sum = x.size * (ys.map Interval.size).sum := by
      rw [List.map_map, ← List.sum_map_mul_left]; rfl
    rw [pairs_cons, List.map_append, List.sum_append, hrow, ih, List.map_cons, List.sum_cons, add_mul]

/-- Two intervals of one cut share no place strictly inside both. -/
theorem Interval.Split.disjoint {e : Interval Rat} {parts : List (Interval Rat)} (h : e.Split parts) {k l : Nat}
    (hkl : k ≠ l) {i j : Interval Rat} (hi : parts[k]? = some i) (hj : parts[l]? = some j) {v : Rat}
    (hvi : i.min < v ∧ v < i.max) (hvj : j.min < v ∧ v < j.max) : False := by
  rcases Nat.lt_or_gt_of_ne hkl with hlt | hgt
  · have := h.apart k l hlt i j hi hj
    linarith [hvi.2, hvj.1]
  · have := h.apart l k hgt j i hj hi
    linarith [hvj.2, hvi.1]

/-- **The product of two cuts** cuts the rectangle up. -/
theorem partition_pairs {r : Rect Rat} {xs ys : List (Interval Rat)} (hx : r.x.Split xs) (hy : r.y.Split ys) :
    r.Partition (pairs Rect.mk xs ys) where
  covers p hp := by
    obtain ⟨hpx, hpy⟩ := contains_iff.1 hp
    obtain ⟨i, hi, hip⟩ := hx.covers p.x hpx
    obtain ⟨j, hj, hjp⟩ := hy.covers p.y hpy
    exact ⟨⟨i, j⟩, mem_pairs.2 ⟨i, hi, j, hj, rfl⟩, contains_iff.2 ⟨hip, hjp⟩⟩
  inside t ht p hp := by
    obtain ⟨i, hi, j, hj, rfl⟩ := mem_pairs.1 ht
    obtain ⟨hip, hjp⟩ := contains_iff.1 hp
    exact contains_iff.2 ⟨hx.inside i hi p.x hip, hy.inside j hj p.y hjp⟩
  disjoint k l hkl t u ht hu p := by
    rintro ⟨⟨htx, hty⟩, hux, huy⟩
    have hk := (List.getElem?_eq_some_iff.1 ht).1
    have hl := (List.getElem?_eq_some_iff.1 hu).1
    rw [getElem?_pairs_div Rect.mk hk] at ht
    rw [getElem?_pairs_div Rect.mk hl] at hu
    simp only [Option.bind_eq_some_iff, Option.map_eq_some_iff] at ht hu
    obtain ⟨i, hi, j, hj, rfl⟩ := ht
    obtain ⟨i', hi', j', hj', rfl⟩ := hu
    by_cases hcol : k / ys.length = l / ys.length
    · have hrow : k % ys.length ≠ l % ys.length := by
        intro hrow
        exact hkl (by rw [← Nat.div_add_mod k ys.length, hcol, hrow, Nat.div_add_mod])
      exact hy.disjoint hrow hj hj' hty huy
    · exact hx.disjoint hcol hi hi' htx hux
  area := by
    rw [sum_area_pairs, hx.total, hy.total]; rfl

/-- Without spacing an axis that takes tiles is cut up by them. -/
theorem split_of_fill {a : Axis} {s : StretchAxis Rat} {e : Interval Rat} {f : Fill Rat}
    (hf : s.fill a e.size = .ok f) (hp : f.Placeable) (hs : s.spacing = 0) : e.Split (s.spans f e) := by
  rw [spans_eq s f e hp.tile_pos_rat]
  exact split_of_spans (hs ▸ spans_of_fill hf hp)

/-- **Without spacing stretched tiles partition the region**, whenever tiles come out. -/
theorem tiles_partition_region (s : Stretch Rat) (hx : s.x.spacing = 0) (hy : s.y.spacing = 0)
    (tiles : List (Rect Rat)) (h : s.tiles = .ok tiles) (hne : tiles ≠ []) :
    ∃ region, Dimension.resolveRect s.x.size s.y.size s.center = .ok region ∧ region.Partition tiles := by
  obtain ⟨region, fx, fy, hf, rfl⟩ := Stretch.fills_of_tiles h hne
  exact ⟨region, hf.settles.1, partition_pairs (split_of_fill hf.settles.2 hf.place_x hx)
    (split_of_fill hf.fill_y hf.place_y hy)⟩

/-- Four columns, as many as are no smaller than 2, by two rows. -/
def flushTiles : Stretch Rat where
  x := { size := .size 9, minTile := some 2, spacing := 0 }
  y := { size := .range 5 (-1), count := some 2, spacing := 0 }
  center := .axes "x"

theorem flush_tiles_partition_region :
    (flushTiles.x.spacing = 0 ∧ flushTiles.y.spacing = 0) ∧
      ∃ tiles, flushTiles.tiles = .ok tiles ∧ tiles ≠ [] ∧
        ∃ region, Dimension.resolveRect flushTiles.x.size flushTiles.y.size flushTiles.center = .ok region ∧
          region.Partition tiles := by
  have htiles : flushTiles.tiles = .ok
      [⟨⟨-9 / 2, -9 / 4⟩, ⟨-1, 2⟩⟩, ⟨⟨-9 / 2, -9 / 4⟩, ⟨2, 5⟩⟩, ⟨⟨-9 / 4, 0⟩, ⟨-1, 2⟩⟩, ⟨⟨-9 / 4, 0⟩, ⟨2, 5⟩⟩,
        ⟨⟨0, 9 / 4⟩, ⟨-1, 2⟩⟩, ⟨⟨0, 9 / 4⟩, ⟨2, 5⟩⟩, ⟨⟨9 / 4, 9 / 2⟩, ⟨-1, 2⟩⟩, ⟨⟨9 / 4, 9 / 2⟩, ⟨2, 5⟩⟩] := by
    decide +kernel
  exact ⟨⟨rfl, rfl⟩, _, htiles, List.cons_ne_nil _ _,
    tiles_partition_region flushTiles rfl rfl _ htiles (List.cons_ne_nil _ _)⟩

end SketchLayout
