import SketchLayout.Proofs.Placement

/-!
# As many tiles as fit

Without a count an axis gets the most tiles that fit with the asked clearance between them. `Fits`
and `IsCapacity` say what that number is without a quotient; `isCapacity_floor` ties it to the floor
that the count is taken from, and `tile_inside`, `tile_clear` say that as many tiles as fit, spread
from end to end, stay inside the extent and keep their clearance.
-/

namespace SketchLayout

/-! ## The greatest count -/

/-- `n` tiles side by side, with clearance between neighbours, are no longer than an extent. -/
def Fits (extent tile clearance : Rat) (n : Nat) : Prop := n * tile + ((n : Rat) - 1) * clearance ≤ extent

/-- The greatest count, from one up, of tiles that fit; zero when not even one does. -/
def IsCapacity (extent tile clearance : Rat) (n : Nat) : Prop :=
  IsGreatest {k : Nat | 1 ≤ k ∧ Fits extent tile clearance k} n ∨
    n = 0 ∧ ∀ k, 1 ≤ k → ¬ Fits extent tile clearance k

section
variable {extent tile clearance : Rat}

/-- Tiles fit when the extent, taken with one clearance more, holds as many tiles with theirs. -/
theorem fits_iff (ht : 0 < tile) (hc : 0 ≤ clearance) {n : Nat} :
    Fits extent tile clearance n ↔ (n : Rat) ≤ (extent + clearance) / (tile + clearance) := by
  rw [Fits, le_div_iff₀ (by linarith)]
  constructor <;> intro h <;> linarith

theorem fits_iff_le_floor (ht : 0 < tile) (hc : 0 ≤ clearance) {n : Nat} :
    Fits extent tile clearance n ↔ (n : Int) ≤ ((extent + clearance) / (tile + clearance)).floor := by
  rw [fits_iff ht hc, Rat.le_floor_iff, Int.cast_natCast]

/-- **The floor is the capacity.** -/
theorem isCapacity_floor (ht : 0 < tile) (hc : 0 ≤ clearance) :
    IsCapacity extent tile clearance ((extent + clearance) / (tile + clearance)).floor.toNat := by
  generalize hq : ((extent + clearance) / (tile + clearance)).floor = q
  have hfits : ∀ n : Nat, Fits extent tile clearance n ↔ (n : Int) ≤ q := by
    intro n; rw [← hq]; exact fits_iff_le_floor ht hc
  by_cases h1 : 1 ≤ q
  · refine .inl ⟨⟨by omega, (hfits _).2 (by omega)⟩, ?_⟩
    rintro k ⟨-, hk⟩
    have := (hfits k).1 hk
    omega
  · refine .inr ⟨by omega, fun k hk hf => ?_⟩
    have := (hfits k).1 hf
    omega

theorem IsCapacity.fits {n : Nat} (h : IsCapacity extent tile clearance n) (hn : 1 ≤ n) :
    Fits extent tile clearance n := by
  rcases h with hg | ⟨rfl, -⟩
  · exact hg.1.2
  · omega

/-! ## Tiles that fit, spread out -/

/-- Spread over an extent, tiles that fit are at least their size and clearance apart in step. -/
theorem le_step_of_fits {n : Nat} (hn : 1 < n) (hf : Fits extent tile clearance n) :
    tile + clearance ≤ (extent - tile) / ((n : Rat) - 1) := by
  have hn1 : (1 : Rat) < n := by exact_mod_cast hn
  rw [le_div_iff₀ (by linarith)]
  unfold Fits at hf
  linarith

end

section
variable {e : Interval Rat} {tile clearance : Rat} {n : Nat}

/-- Neighbours keep their clearance. -/
theorem tile_clear (hf : Fits (e.max - e.min) tile clearance n) {k : Nat} (hk : k + 1 < n) :
    e.tileStart tile n k + tile + clearance ≤ e.tileStart tile n (k + 1) := by
  rw [Interval.tileStart_succ e tile (by omega)]
  have := le_step_of_fits (by omega) hf
  linarith

/-- No tile sticks out. -/
theorem tile_inside (ht : 0 < tile) (hc : 0 ≤ clearance) (hf : Fits (e.max - e.min) tile clearance n) {k : Nat}
    (hk : k < n) : e.min ≤ e.tileStart tile n k ∧ e.tileStart tile n k + tile ≤ e.max := by
  by_cases h1 : n = 1
  · subst h1
    have hle : tile ≤ e.max - e.min := by unfold Fits at hf; push_cast at hf; linarith
    rw [Interval.tileStart_one]
    constructor <;> linarith
  · -- all tiles lie between the first, at the lower end, and the last, which ends at the upper
    have hstep := le_step_of_fits (by omega) hf
    have hfirst := e.tileStart_zero tile h1
    have hlast := e.tileStart_last tile (n := n) (by omega)
    have hmono : Monotone (e.tileStart tile n) :=
      monotone_nat_of_le_succ fun m => by rw [Interval.tileStart_succ e tile h1]; linarith
    have hlo := hmono (Nat.zero_le k)
    have hhi := hmono (by omega : k ≤ n - 1)
    constructor <;> linarith

end

/-! ## Distributed tiles -/

/-- The stretch of a tile of some size whose anchor stands at a place. -/
def Anchor.tile (anchor : Anchor) (size place : Rat) : Interval Rat :=
  match anchor with
  | .center => ⟨place - size / 2, place + size / 2⟩
  | .origin => ⟨place, place + size⟩

/-- The tile that a point of a distribution stands for. -/
def Distribute.tileAt (d : Distribute Rat) (p : Point Rat) : Rect Rat :=
  ⟨d.anchor.tile d.x.tileSize p.x, d.anchor.tile d.y.tileSize p.y⟩

/-- Putting the anchor in its place puts the tile at its beginning. -/
theorem tile_offset (anchor : Anchor) (size start : Rat) :
    anchor.tile size (start + anchor.offset size) = ⟨start, start + size⟩ := by
  cases anchor
  · simp only [Anchor.tile, Anchor.offset, Interval.mk.injEq]
    constructor <;> ring
  · simp [Anchor.tile, Anchor.offset]

/-- `i` lies in `e`. -/
def Interval.Within (i e : Interval Rat) : Prop := e.min ≤ i.min ∧ i.max ≤ e.max

/-- The points of `nx` by `ny` tiles that stay in a region and keep the clearance of either axis. -/
structure Distribute.Packs (d : Distribute Rat) (region : Rect Rat) (nx ny : Nat) (points : List (Point Rat)) :
    Prop where
  length : points.length = nx * ny
  inside : ∀ p ∈ points, (d.tileAt p).x.Within region.x ∧ (d.tileAt p).y.Within region.y
  clear_x : ∀ i j p q, i + 1 < nx → j < ny → points[i * ny + j]? = some p → points[(i + 1) * ny + j]? = some q →
    p.y = q.y ∧ (d.tileAt p).x.max + d.x.minSpacing ≤ (d.tileAt q).x.min
  clear_y : ∀ i j p q, i < nx → j + 1 < ny → points[i * ny + j]? = some p → points[i * ny + (j + 1)]? = some q →
    p.x = q.x ∧ (d.tileAt p).y.max + d.y.minSpacing ≤ (d.tileAt q).y.min

/-- **Tiles that fit are packed**: spread over the region they stay inside and keep their clearance. -/
theorem packs_of_fits {d : Distribute Rat} (htx : 0 < d.x.tileSize) (hty : 0 < d.y.tileSize)
    (hcx : 0 ≤ d.x.minSpacing) (hcy : 0 ≤ d.y.minSpacing) {region : Rect Rat} {nx ny : Nat}
    (hfx : 1 ≤ nx → Fits region.x.size d.x.tileSize d.x.minSpacing nx)
    (hfy : 1 ≤ ny → Fits region.y.size d.y.tileSize d.y.minSpacing ny) :
    d.Packs region nx ny
      (pairs Point.mk (d.x.positions d.anchor region.x nx) (d.y.positions d.anchor region.y ny)) := by
  -- the point at `i * ny + j`, of which all that follows speaks
  have hitem : ∀ i j, i < nx → j < ny →
      (pairs Point.mk (d.x.positions d.anchor region.x nx) (d.y.positions d.anchor region.y ny))[i * ny + j]? =
        some ⟨region.x.tileStart d.x.tileSize nx i + d.anchor.offset d.x.tileSize,
          region.y.tileStart d.y.tileSize ny j + d.anchor.offset d.y.tileSize⟩ := by
    intro i j hi hj
    have := getElem?_pairs_of Point.mk (getElem?_positions d.x d.anchor region.x hi)
      (getElem?_positions d.y d.anchor region.y hj)
    rwa [DistributeAxis.length_positions] at this
  refine ⟨by simp, fun p hp => ?_, fun i j p q hi hj hp hq => ?_, fun i j p q hi hj hp hq => ?_⟩
  · obtain ⟨x, hx, y, hy, rfl⟩ := mem_pairs.1 hp
    rw [positions_eq] at hx hy
    obtain ⟨i, hi, rfl⟩ := List.mem_map.1 hx
    obtain ⟨j, hj, rfl⟩ := List.mem_map.1 hy
    rw [List.mem_range] at hi hj
    simp only [Distribute.tileAt, tile_offset]
    exact ⟨tile_inside htx hcx (hfx (by omega)) hi, tile_inside hty hcy (hfy (by omega)) hj⟩
  · rw [hitem i j (by omega) hj] at hp
    rw [hitem (i + 1) j hi hj] at hq
    cases hp; cases hq
    simp only [Distribute.tileAt, tile_offset, true_and]
    exact tile_clear (hfx (by omega)) hi
  · rw [hitem i j hi (by omega)] at hp
    rw [hitem i (j + 1) hi hj] at hq
    cases hp; cases hq
    simp only [Distribute.tileAt, tile_offset, true_and]
    exact tile_clear (hfy (by omega)) hj

/-- Without a count an axis asks for its capacity. -/
theorem asked_isCapacity {d : DistributeAxis Rat} (ht : 0 < d.tileSize) (hc : 0 ≤ d.minSpacing)
    (hn : d.count = none) (e : Interval Rat) :
    ∃ n, d.asked e = some n ∧ IsCapacity e.size d.tileSize d.minSpacing n := by
  refine ⟨_, ?_, isCapacity_floor ht hc⟩
  simp only [DistributeAxis.asked, hn]
  rfl

/-- **Inferred distribution is optimal.** With strictly positive tiles, no negative clearance, a valid
centering and no counts, either axis takes its capacity: a capacity above the limit is refused, X
before Y, then a product above it, and otherwise just as many tiles are packed into the region. -/
theorem inferred_distribution_optimal (d : Distribute Rat) (htx : 0 < d.x.tileSize) (hty : 0 < d.y.tileSize)
    (hcx : 0 ≤ d.x.minSpacing) (hcy : 0 ≤ d.y.minSpacing) (hnx : d.x.count = none) (hny : d.y.count = none)
    (flags : CenterFlags) (hc : (d.center.resolve .two : Except (LayoutError Rat) CenterFlags) = .ok flags) :
    ∃ region nx ny, Dimension.resolveRect d.x.size d.y.size d.center = .ok region ∧
      IsCapacity region.x.size d.x.tileSize d.x.minSpacing nx ∧
      IsCapacity region.y.size d.y.tileSize d.y.minSpacing ny ∧
      if positionLimit < nx then d.points = .error (.countTooLarge .x)
      else if positionLimit < ny then d.points = .error (.countTooLarge .y)
      else if positionLimit < nx * ny then d.points = .error (.tooManyPositions nx ny)
      else ∃ points, d.points = .ok points ∧ d.Packs region nx ny points := by
  have hr : Dimension.resolveRect d.x.size d.y.size d.center =
      .ok ⟨d.x.size.resolve flags.x, d.y.size.resolve flags.y⟩ := resolveRect_eq_ok.2 ⟨flags, hc, rfl⟩
  obtain ⟨nx, hax, hmx⟩ := asked_isCapacity htx hcx hnx (d.x.size.resolve flags.x)
  obtain ⟨ny, hay, hmy⟩ := asked_isCapacity hty hcy hny (d.y.size.resolve flags.y)
  have hrun := Distribute.points_of_asked (d := d) (by simpa using htx) (by simpa using hty) hr hax hay
  refine ⟨_, nx, ny, hr, hmx, hmy, ?_⟩
  rw [hrun]
  split
  · rfl
  · split
    · rfl
    · split
      · rfl
      · exact ⟨_, rfl, packs_of_fits htx hty hcx hcy hmx.fits hmy.fits⟩

/-- Three columns with room to spare by two rows that fit exactly. -/
def roomy : Distribute Rat where
  x := { size := .size (21 / 2), tileSize := 2, minSpacing := 1 }
  y := { size := .range 5 (-1), tileSize := 3, minSpacing := 0 }
  center := .axes "y"

theorem spaced_columns_optimal :
    ((0 < roomy.x.tileSize ∧ 0 < roomy.y.tileSize) ∧ 0 ≤ roomy.x.minSpacing ∧ 0 ≤ roomy.y.minSpacing) ∧
      (roomy.x.count = none ∧ roomy.y.count = none) ∧
      (roomy.center.resolve .two : Except (LayoutError Rat) CenterFlags) = .ok ⟨false, true, false⟩ ∧
      ∃ region nx ny, Dimension.resolveRect roomy.x.size roomy.y.size roomy.center = .ok region ∧
        IsCapacity region.x.size roomy.x.tileSize roomy.x.minSpacing nx ∧
        IsCapacity region.y.size roomy.y.tileSize roomy.y.minSpacing ny ∧
        if positionLimit < nx then roomy.points = .error (.countTooLarge .x)
        else if positionLimit < ny then roomy.points = .error (.countTooLarge .y)
        else if positionLimit < nx * ny then roomy.points = .error (.tooManyPositions nx ny)
        else ∃ points, roomy.points = .ok points ∧ roomy.Packs region nx ny points := by
  have hx : 0 < roomy.x.tileSize := by decide +kernel
  have hy : 0 < roomy.y.tileSize := by decide +kernel
  have hcx : 0 ≤ roomy.x.minSpacing := by decide +kernel
  have hcy : 0 ≤ roomy.y.minSpacing := by decide +kernel
  have hflags : (roomy.center.resolve .two : Except (LayoutError Rat) CenterFlags) = .ok ⟨false, true, false⟩ := by
    decide +kernel
  exact ⟨⟨⟨hx, hy⟩, hcx, hcy⟩, ⟨rfl, rfl⟩, hflags,
    inferred_distribution_optimal roomy hx hy hcx hcy rfl rfl _ hflags⟩

end SketchLayout
