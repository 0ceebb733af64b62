import SketchLayout.Job
import SketchLayout.Proofs.Product

/-!
# What a successful run went through

A generator checks, resolves and counts step by step, and the first step that refuses ends the run.
Each generator is opened here once: `Grid.points_eq_ok` and `Distribute.points_eq_ok` say exactly when
points come out and which, `Stretch.tiles_cases` lists the three ways in which tiles come out. The
answers do not depend on the axis names that the steps carry for their errors (`countIn_eq`,
`step_eq_ok_axis`, `fill_eq_ok_axis`).
-/

namespace SketchLayout

variable {α : Type}

/-! ## Steps -/

theorem bind_eq_ok {ε β γ : Type} {x : Except ε β} {f : β → Except ε γ} {c : γ} :
    (x >>= f) = .ok c ↔ ∃ b, x = .ok b ∧ f b = .ok c := by
  cases x <;> simp [bind, Except.bind]

/-- Runs that go on alike after every answer of their first step are the same. -/
theorem bind_congr_ok {ε β γ : Type} {x : Except ε β} {f g : β → Except ε γ} (h : ∀ b, x = .ok b → f b = g b) :
    (x >>= f) = x >>= g := by
  cases x with
  | error e => rfl
  | ok b => exact h b rfl

@[simp] theorem ok_bind {ε β γ : Type} (b : β) (f : β → Except ε γ) : (Except.ok b >>= f) = f b := rfl

@[simp] theorem pure_eq_ok {ε β : Type} {b c : β} : (pure b : Except ε β) = .ok c ↔ b = c := by
  simp [pure, Except.pure]

theorem isOk_iff {ε β : Type} {x : Except ε β} : x.isOk ↔ ∃ b, x = .ok b := by
  cases x <;> simp [Except.isOk, Except.toBool]

theorem eq_ok_of_toOption {ε β : Type} {x : Except ε β} {b : β} (h : x.toOption = some b) : x = .ok b := by
  cases x with
  | error e => cases h
  | ok c => exact congrArg Except.ok (Option.some.inj h)

theorem checkedCount_eq_ok {a : Axis} {n m : Nat} :
    (checkedCount a n : Except (LayoutError α) Nat) = .ok m ↔ n ≤ positionLimit ∧ n = m := by
  unfold checkedCount
  split
  · simp; omega
  · simp; omega

theorem inferredCount_eq_ok {a : Axis} {c : Option Nat} {m : Nat} :
    (inferredCount a c : Except (LayoutError α) Nat) = .ok m ↔ c = some m ∧ m ≤ positionLimit := by
  cases c with
  | none => simp [inferredCount]
  | some n =>
    simp only [inferredCount, checkedCount_eq_ok, Option.some.injEq]
    constructor
    · rintro ⟨hn, rfl⟩; exact ⟨rfl, hn⟩
    · rintro ⟨rfl, hn⟩; exact ⟨hn, rfl⟩

theorem checkedTotal_eq_ok {nx ny t : Nat} :
    (checkedTotal nx ny : Except (LayoutError α) Nat) = .ok t ↔ nx * ny ≤ positionLimit ∧ nx * ny = t := by
  unfold checkedTotal
  split
  · simp; omega
  · simp; omega

/-- An early answer to a total of zero changes nothing when there is nothing to list then. -/
theorem checkedTotal_bind_early {β : Type} {nx ny : Nat} {items : List β} (h : nx * ny = 0 → items = []) :
    ((checkedTotal nx ny : Except (LayoutError α) Nat) >>= fun total =>
      if total = 0 then pure [] else pure items) = (checkedTotal nx ny >>= fun _ => pure items) := by
  unfold checkedTotal
  split
  · rfl
  · rw [ok_bind, ok_bind]
    split
    · rename_i h0; rw [h h0]
    · rfl

section
variable [Scalar α]

theorem resolveRect_eq_ok {dx dy : Dimension α} {c : Center} {r : Rect α} :
    Dimension.resolveRect dx dy c = .ok r ↔
      ∃ flags, (c.resolve .two : Except (LayoutError α) CenterFlags) = .ok flags ∧
        r = ⟨dx.resolve flags.x, dy.resolve flags.y⟩ := by
  unfold Dimension.resolveRect
  simp only [bind_eq_ok, pure_eq_ok]
  constructor
  · rintro ⟨flags, hf, rfl⟩; exact ⟨flags, hf, rfl⟩
  · rintro ⟨flags, hf, rfl⟩; exact ⟨flags, hf, rfl⟩

/-! ## Grids -/

namespace GridAxis

omit [Scalar α] in
theorem checkedPositive_eq_ok {a : Axis} {g : GridAxis α} {u : Unit} :
    g.checkedPositive a = .ok u ↔ g.count ≠ 0 := by
  unfold checkedPositive; split <;> simp_all

/-- The axis name is read for errors only. -/
theorem step_eq_ok_axis {a : Axis} (b : Axis) {g : GridAxis α} {centered : Bool} {s : Step α} :
    g.step a centered = .ok s ↔ g.step b centered = .ok s := by
  unfold step
  split
  · rfl
  · split <;> simp

end GridAxis

theorem Grid.points_eq_ok {g : Grid α} {ps : List (Point α)} :
    g.points = .ok ps ↔
      (g.x.count ≠ 0 ∧ g.y.count ≠ 0) ∧ (g.x.count ≤ positionLimit ∧ g.y.count ≤ positionLimit) ∧
        g.x.count * g.y.count ≤ positionLimit ∧
        ∃ flags sx sy, (g.center.resolve .two : Except (LayoutError α) CenterFlags) = .ok flags ∧
          g.x.step .x flags.x = .ok sx ∧ g.y.step .y flags.y = .ok sy ∧
          ps = pairs Point.mk (sx.coordinates g.x.count) (sy.coordinates g.y.count) := by
  unfold Grid.points
  simp only [bind_eq_ok, pure_eq_ok, GridAxis.checkedPositive_eq_ok, checkedCount_eq_ok, checkedTotal_eq_ok]
  constructor
  · rintro ⟨_, hx, _, hy, _, ⟨hlx, rfl⟩, _, ⟨hly, rfl⟩, _, ⟨ht, rfl⟩, flags, hf, sx, hsx, sy, hsy, rfl⟩
    exact ⟨⟨hx, hy⟩, ⟨hlx, hly⟩, ht, flags, sx, sy, hf, hsx, hsy, rfl⟩
  · rintro ⟨⟨hx, hy⟩, ⟨hlx, hly⟩, ht, flags, sx, sy, hf, hsx, hsy, rfl⟩
    exact ⟨(), hx, (), hy, _, ⟨hlx, rfl⟩, _, ⟨hly, rfl⟩, _, ⟨ht, rfl⟩, flags, hf, sx, hsx, sy, hsy, rfl⟩

@[simp] theorem Step.length_coordinates (s : Step α) (n : Nat) : (s.coordinates n).length = n := by
  simp [Step.coordinates]

/-! ## Distributed tiles -/

namespace DistributeAxis

theorem checkedTile_eq_ok {a : Axis} {d : DistributeAxis α} {u : Unit} :
    d.checkedTile a = .ok u ↔ Scalar.le d.tileSize Scalar.zero = false := by
  unfold checkedTile; split <;> simp_all

/-- How many tiles an axis asks for in an extent: the given number, or as many as fit, which is
`none` when no number is enough. -/
def asked (d : DistributeAxis α) (extent : Interval α) : Option Nat :=
  match d.count with
  | some count => some count
  | none => (Scalar.reach ((extent.size + d.minSpacing) / (d.tileSize + d.minSpacing))).fitting

/-- The axis name is read for errors only. -/
theorem countIn_eq (a : Axis) (d : DistributeAxis α) (extent : Interval α) :
    d.countIn a extent = inferredCount a (d.asked extent) := by
  unfold countIn asked; cases d.count <;> rfl

/-- The axis name is read for errors only. -/
theorem countIn_eq_ok_axis {a : Axis} (b : Axis) {d : DistributeAxis α} {extent : Interval α} {n : Nat} :
    d.countIn a extent = .ok n ↔ d.countIn b extent = .ok n := by
  rw [countIn_eq, countIn_eq, inferredCount_eq_ok, inferredCount_eq_ok]

@[simp] theorem positions_zero (d : DistributeAxis α) (anchor : Anchor) (extent : Interval α) :
    d.positions anchor extent 0 = [] := rfl

@[simp] theorem length_positions (d : DistributeAxis α) (anchor : Anchor) (extent : Interval α) :
    ∀ n : Nat, (d.positions anchor extent n).length = n
  | 0 | 1 => rfl
  | n + 2 => by simp [positions]

end DistributeAxis

theorem Distribute.pairs_positions_eq_nil (d : Distribute α) (region : Rect α) {nx ny : Nat} (h : nx * ny = 0) :
    pairs Point.mk (d.x.positions d.anchor region.x nx) (d.y.positions d.anchor region.y ny) = [] := by
  rcases Nat.mul_eq_zero.1 h with rfl | rfl <;> simp

/-- The early answer of an axis without tiles is the product over its empty list of positions. -/
theorem Distribute.points_eq (d : Distribute α) :
    d.points = do
      d.x.checkedTile .x
      d.y.checkedTile .y
      let region ← Dimension.resolveRect d.x.size d.y.size d.center
      let nx ← d.x.countIn .x region.x
      let ny ← d.y.countIn .y region.y
      let _ ← checkedTotal nx ny
      return pairs Point.mk (d.x.positions d.anchor region.x nx) (d.y.positions d.anchor region.y ny) := by
  have htotal := fun (region : Rect α) (nx ny : Nat) =>
    checkedTotal_bind_early (α := α) (d.pairs_positions_eq_nil region : nx * ny = 0 → _)
  unfold Distribute.points
  simp only [htotal]

theorem Distribute.points_eq_ok {d : Distribute α} {ps : List (Point α)} :
    d.points = .ok ps ↔
      (Scalar.le d.x.tileSize Scalar.zero = false ∧ Scalar.le d.y.tileSize Scalar.zero = false) ∧
        ∃ region nx ny, Dimension.resolveRect d.x.size d.y.size d.center = .ok region ∧
          d.x.countIn .x region.x = .ok nx ∧ d.y.countIn .y region.y = .ok ny ∧ nx * ny ≤ positionLimit ∧
          ps = pairs Point.mk (d.x.positions d.anchor region.x nx) (d.y.positions d.anchor region.y ny) := by
  rw [Distribute.points_eq]
  simp only [bind_eq_ok, pure_eq_ok, DistributeAxis.checkedTile_eq_ok, checkedTotal_eq_ok]
  constructor
  · rintro ⟨_, hx, _, hy, region, hr, nx, hnx, ny, hny, _, ⟨ht, -⟩, rfl⟩
    exact ⟨⟨hx, hy⟩, region, nx, ny, hr, hnx, hny, ht, rfl⟩
  · rintro ⟨⟨hx, hy⟩, region, nx, ny, hr, hnx, hny, ht, rfl⟩
    exact ⟨(), hx, (), hy, region, hr, nx, hnx, ny, hny, _, ⟨ht, rfl⟩, rfl⟩

/-- Past the checks and the centering, a run is decided by how many tiles the axes ask for. -/
theorem Distribute.points_of_asked {d : Distribute α} {region : Rect α} {nx ny : Nat}
    (hx : Scalar.le d.x.tileSize Scalar.zero = false) (hy : Scalar.le d.y.tileSize Scalar.zero = false)
    (hr : Dimension.resolveRect d.x.size d.y.size d.center = .ok region) (hnx : d.x.asked region.x = some nx)
    (hny : d.y.asked region.y = some ny) :
    d.points =
      if positionLimit < nx then .error (.countTooLarge .x)
      else if positionLimit < ny then .error (.countTooLarge .y)
      else if positionLimit < nx * ny then .error (.tooManyPositions nx ny)
      else .ok (pairs Point.mk (d.x.positions d.anchor region.x nx) (d.y.positions d.anchor region.y ny)) := by
  have htx : d.x.checkedTile .x = .ok () := DistributeAxis.checkedTile_eq_ok.2 hx
  have hty : d.y.checkedTile .y = .ok () := DistributeAxis.checkedTile_eq_ok.2 hy
  rw [Distribute.points_eq]
  simp only [htx, hty, hr, ok_bind, DistributeAxis.countIn_eq, hnx, hny, inferredCount, checkedCount,
    checkedTotal]
  split
  · rfl
  · split
    · rfl
    · simp only [ok_bind]
      split <;> rfl

/-! ## Stretched tiles -/

namespace Fill

@[simp] theorem count_stretched (n : Nat) (extent spacing : α) : (stretched n extent spacing).count = n := by
  unfold stretched
  split
  · rename_i hn; simp [hn, empty]
  · rfl

theorem derived_cases (n : Nat) (extent spacing : α) :
    derived n extent spacing = empty ∨ derived n extent spacing = stretched n extent spacing := by
  unfold derived
  simp only
  split
  · exact .inl rfl
  · exact .inr rfl

end Fill

namespace StretchAxis
variable {a : Axis} {s : StretchAxis α} {extent tile : α} {f : Fill α}

theorem fewest_eq_ok : s.fewest a extent tile = .ok f ↔
    ∃ n, ((Scalar.reach (s.ratio extent tile)).covering = some n ∧ n ≤ positionLimit) ∧
      .derived n extent s.spacing = f := by
  simp only [fewest, bind_eq_ok, inferredCount_eq_ok, pure_eq_ok]

theorem most_eq_ok : s.most a extent tile = .ok f ↔
    ∃ n, ((Scalar.reach (s.ratio extent tile)).fitting = some n ∧ n ≤ positionLimit) ∧
      .derived n extent s.spacing = f := by
  simp only [most, bind_eq_ok, inferredCount_eq_ok, pure_eq_ok]

/-- An axis takes as many tiles as are given or as it derives, and either number is within the limit. -/
theorem fill_cases (h : s.fill a extent = .ok f) :
    ∃ n ≤ positionLimit, f = .stretched n extent s.spacing ∨ f = .derived n extent s.spacing := by
  unfold fill at h
  split at h
  · simp only [bind_eq_ok, checkedCount_eq_ok, pure_eq_ok] at h
    obtain ⟨n, ⟨hle, rfl⟩, rfl⟩ := h
    exact ⟨_, hle, .inl rfl⟩
  · split at h
    · cases h
    · obtain ⟨n, ⟨-, hle⟩, rfl⟩ := fewest_eq_ok.1 h
      exact ⟨n, hle, .inr rfl⟩
    · split at h
      · cases h
        exact ⟨0, Nat.zero_le _, .inl rfl⟩
      · split at h
        · obtain ⟨n, ⟨-, hle⟩, rfl⟩ := fewest_eq_ok.1 h
          exact ⟨n, hle, .inr rfl⟩
        · obtain ⟨n, ⟨-, hle⟩, rfl⟩ := most_eq_ok.1 h
          exact ⟨n, hle, .inr rfl⟩

/-- Whatever decides the count, the tiles of an axis are stretched by the one formula. -/
theorem fill_eq_stretched (h : s.fill a extent = .ok f) : f = .stretched f.count extent s.spacing := by
  obtain ⟨n, -, rfl | rfl⟩ := fill_cases h
  · rw [Fill.count_stretched]
  · rcases Fill.derived_cases n extent s.spacing with hempty | hstretched
    · rw [hempty]; rfl
    · rw [hstretched, Fill.count_stretched]

/-- No axis takes more tiles than the limit. -/
theorem count_fill_le (h : s.fill a extent = .ok f) : f.count ≤ positionLimit := by
  obtain ⟨n, hle, rfl | rfl⟩ := fill_cases h
  · rwa [Fill.count_stretched]
  · rcases Fill.derived_cases n extent s.spacing with hempty | hstretched
    · rw [hempty]; exact Nat.zero_le _
    · rwa [hstretched, Fill.count_stretched]

/-- The axis name is read for errors only. -/
theorem fill_eq_ok_axis (b : Axis) : s.fill a extent = .ok f ↔ s.fill b extent = .ok f := by
  unfold fill
  split
  · simp only [bind_eq_ok, checkedCount_eq_ok]
  · split
    · simp
    · rw [fewest_eq_ok, fewest_eq_ok]
    · split
      · rfl
      · split
        · rw [fewest_eq_ok, fewest_eq_ok]
        · rw [most_eq_ok, most_eq_ok]

end StretchAxis

/-- The intervals that the tiles of a fill take along an extent. -/
def StretchAxis.spans (s : StretchAxis α) (f : Fill α) (extent : Interval α) : List (Interval α) :=
  (DistributeAxis.positions ⟨s.size, f.tile, some f.count, Scalar.zero⟩ .origin extent f.count).map
    fun p => .new p (p + f.tile)

@[simp] theorem StretchAxis.length_spans (s : StretchAxis α) (f : Fill α) (extent : Interval α) :
    (s.spans f extent).length = f.count := by
  simp [spans]

/-- A fill whose tiles can be placed: there are some, they are not empty and not too many. -/
structure Fill.Placeable (f : Fill α) : Prop where
  count_ne : f.count ≠ 0
  count_le : f.count ≤ positionLimit
  tile_pos : Scalar.le f.tile Scalar.zero = false

namespace Stretch

/-- The region and the fill of X, which every run settles first. -/
def SettlesX (s : Stretch α) (region : Rect α) (fx : Fill α) : Prop :=
  Dimension.resolveRect s.x.size s.y.size s.center = .ok region ∧ s.x.fill .x region.x.size = .ok fx

/-- Both axes take tiles and all of them can be placed. -/
structure Fills (s : Stretch α) (region : Rect α) (fx fy : Fill α) : Prop where
  settles : s.SettlesX region fx
  fill_y : s.y.fill .y region.y.size = .ok fy
  place_x : fx.Placeable
  place_y : fy.Placeable
  total : fx.count * fy.count ≤ positionLimit

theorem origins_points_eq_ok {s : Stretch α} {region : Rect α} {fx fy : Fill α} {ps : List (Point α)}
    (hr : Dimension.resolveRect s.x.size s.y.size s.center = .ok region) (hx : fx.count ≠ 0) (hy : fy.count ≠ 0) :
    (s.origins fx fy).points = .ok ps ↔
      fx.Placeable ∧ fy.Placeable ∧ fx.count * fy.count ≤ positionLimit ∧
        ps = pairs Point.mk ((s.origins fx fy).x.positions .origin region.x fx.count)
          ((s.origins fx fy).y.positions .origin region.y fy.count) := by
  rw [Distribute.points_eq_ok]
  constructor
  · rintro ⟨⟨htx, hty⟩, region', nx, ny, hr', hnx, hny, ht, rfl⟩
    cases hr.symm.trans hr'
    rw [DistributeAxis.countIn_eq, inferredCount_eq_ok] at hnx hny
    obtain ⟨hnx, hlx⟩ := hnx
    obtain ⟨hny, hly⟩ := hny
    cases hnx; cases hny
    exact ⟨⟨hx, hlx, htx⟩, ⟨hy, hly, hty⟩, ht, rfl⟩
  · rintro ⟨px, py, ht, rfl⟩
    refine ⟨⟨px.tile_pos, py.tile_pos⟩, region, fx.count, fy.count, hr, ?_, ?_, ht, rfl⟩
    · rw [DistributeAxis.countIn_eq, inferredCount_eq_ok]; exact ⟨rfl, px.count_le⟩
    · rw [DistributeAxis.countIn_eq, inferredCount_eq_ok]; exact ⟨rfl, py.count_le⟩

theorem tiles_of_fills {s : Stretch α} {region : Rect α} {fx fy : Fill α} (h : s.Fills region fx fy) :
    s.tiles = .ok (pairs Rect.mk (s.x.spans fx region.x) (s.y.spans fy region.y)) := by
  have hp := (origins_points_eq_ok h.settles.1 h.place_x.count_ne h.place_y.count_ne).2
    ⟨h.place_x, h.place_y, h.total, rfl⟩
  unfold tiles
  simp only [h.settles.1, h.settles.2, h.fill_y, hp, h.place_x.count_ne, h.place_y.count_ne, ok_bind,
    ↓reduceIte, pure_eq_ok, map_pairs]
  rw [StretchAxis.spans, StretchAxis.spans, pairs_map]
  rfl

theorem tiles_of_bare_x {s : Stretch α} {region : Rect α} {fx : Fill α} (h : s.SettlesX region fx)
    (hx : fx.count = 0) : s.tiles = .ok [] := by
  unfold tiles
  simp only [h.1, h.2, hx, ok_bind, ↓reduceIte, pure_eq_ok]

/-- **The three ways to succeed**: X takes no tiles, or only Y takes none, or both are filled. -/
theorem tiles_cases {s : Stretch α} {ts : List (Rect α)} (h : s.tiles = .ok ts) :
    ∃ region fx, s.SettlesX region fx ∧
      ((fx.count = 0 ∧ ts = []) ∨
        ∃ fy, s.y.fill .y region.y.size = .ok fy ∧
          ((fy.count = 0 ∧ ts = []) ∨
            s.Fills region fx fy ∧ ts = pairs Rect.mk (s.x.spans fx region.x) (s.y.spans fy region.y))) := by
  have hts := h
  unfold tiles at h
  simp only [bind_eq_ok] at h
  obtain ⟨region, hr, fx, hfx, h⟩ := h
  refine ⟨region, fx, ⟨hr, hfx⟩, ?_⟩
  split at h
  · rename_i hx
    exact .inl ⟨hx, (pure_eq_ok.1 h).symm⟩
  · rename_i hx
    simp only [bind_eq_ok] at h
    obtain ⟨fy, hfy, h⟩ := h
    refine .inr ⟨fy, hfy, ?_⟩
    split at h
    · rename_i hy
      exact .inl ⟨hy, (pure_eq_ok.1 h).symm⟩
    · rename_i hy
      simp only [bind_eq_ok] at h
      obtain ⟨ps, hps, -⟩ := h
      obtain ⟨px, py, ht, -⟩ := (origins_points_eq_ok hr hx hy).1 hps
      have hfills : s.Fills region fx fy := ⟨⟨hr, hfx⟩, hfy, px, py, ht⟩
      exact .inr ⟨hfills, Except.ok.inj (hts.symm.trans (tiles_of_fills hfills))⟩

/-- Tiles come out only when both axes are filled. -/
theorem fills_of_tiles {s : Stretch α} {ts : List (Rect α)} (h : s.tiles = .ok ts) (hne : ts ≠ []) :
    ∃ region fx fy, s.Fills region fx fy ∧
      ts = pairs Rect.mk (s.x.spans fx region.x) (s.y.spans fy region.y) := by
  obtain ⟨region, fx, -, ⟨-, rfl⟩ | ⟨fy, -, ⟨-, rfl⟩ | hf⟩⟩ := tiles_cases h
  · exact absurd rfl hne
  · exact absurd rfl hne
  · exact ⟨region, fx, fy, hf⟩

end Stretch

end

end SketchLayout
