import SketchLayout.Proofs.Units

/-!
# Layouts that move with their region

`shift` moves the ranges of a request by an offset per axis. Counts, steps and tile sizes are read off
extents, which a move leaves alone; the place of an extent is read once per axis, wherever the positions
begin, be it from its lower end or from its middle. So the run of the moved request is the moved run
(`Job.run_shift`), for every offset that adds up as lengths should (`Scalar.Offset`). Rational offsets do,
also on the extended line, where a ratio may be an end of the line.
-/

namespace SketchLayout

variable {α : Type}

/-! ## Requests with explicit bounds -/

/-- Explicit bounds. -/
def Dimension.Ranged : Dimension α → Prop
  | size _ => False
  | range _ _ => True

/-- An axis of several points with explicit bounds. -/
def GridAxis.Ranged (g : GridAxis α) : Prop := 1 < g.count ∧ ∃ d, g.size = some d ∧ d.Ranged

/-- A request for points or tiles with explicit bounds on both axes. -/
def Job.Ranged : Job α → Prop
  | dims _ => False
  | rect o => o.sizeX.Ranged ∧ o.sizeY.Ranged
  | grid g => g.x.Ranged ∧ g.y.Ranged
  | distribute d => d.x.size.Ranged ∧ d.y.size.Ranged
  | stretch s => s.x.size.Ranged ∧ s.y.size.Ranged

section
variable {β : Type} {φ : α → β}

theorem Dimension.Ranged.map {d : Dimension α} (h : d.Ranged) : (d.map φ).Ranged := by
  cases d with
  | size s => exact h.elim
  | range lo hi => exact trivial

theorem GridAxis.Ranged.map {g : GridAxis α} (h : g.Ranged) : (g.map φ).Ranged := by
  obtain ⟨hmany, d, hsize, hd⟩ := h
  exact ⟨hmany, d.map φ, by rw [GridAxis.map, hsize]; rfl, hd.map⟩

theorem Job.Ranged.map {j : Job α} (h : j.Ranged) : (j.map φ).Ranged := by
  cases j with
  | dims d => exact h.elim
  | rect o => exact ⟨h.1.map, h.2.map⟩
  | grid g => exact ⟨h.1.map, h.2.map⟩
  | distribute d => exact ⟨h.1.map, h.2.map⟩
  | stretch s => exact ⟨h.1.map, h.2.map⟩

end

variable [Scalar α]

/-! ## Moved requests and outputs -/

/-- A range with both bounds moved. A size stays as it is. -/
def Dimension.shift (offset : α) : Dimension α → Dimension α
  | size s => .size s
  | range lo hi => .range (lo + offset) (hi + offset)

def Point.shift (dx dy : α) (p : Point α) : Point α := ⟨p.x + dx, p.y + dy⟩

def Rect.shift (dx dy : α) (r : Rect α) : Rect α := r.apply (.translate dx dy Scalar.zero)

def Outline.shift (dx dy : α) (o : Outline α) : Outline α := ⟨o.sizeX.shift dx, o.sizeY.shift dy, o.center⟩

def GridAxis.shift (offset : α) (g : GridAxis α) : GridAxis α := { g with size := g.size.map (·.shift offset) }

def Grid.shift (dx dy : α) (g : Grid α) : Grid α := ⟨g.x.shift dx, g.y.shift dy, g.center⟩

def Step.shift (offset : α) (s : Step α) : Step α := ⟨s.step, s.offset + offset⟩

def DistributeAxis.shift (offset : α) (d : DistributeAxis α) : DistributeAxis α :=
  { d with size := d.size.shift offset }

def Distribute.shift (dx dy : α) (d : Distribute α) : Distribute α := ⟨d.x.shift dx, d.y.shift dy, d.center, d.anchor⟩

def StretchAxis.shift (offset : α) (s : StretchAxis α) : StretchAxis α := { s with size := s.size.shift offset }

def Stretch.shift (dx dy : α) (s : Stretch α) : Stretch α := ⟨s.x.shift dx, s.y.shift dy, s.center⟩

/-- A request with the ranges of its two axes moved. -/
def Job.shift (dx dy : α) : Job α → Job α
  | dims d => .dims d
  | rect o => .rect (o.shift dx dy)
  | grid g => .grid (g.shift dx dy)
  | distribute d => .distribute (d.shift dx dy)
  | stretch s => .stretch (s.shift dx dy)

/-- An output with every point, or every bound of every tile, moved. -/
def Output.shift (dx dy : α) : Output α → Output α
  | intervals items => .intervals items
  | points items => .points (items.map (Point.shift dx dy))
  | tiles items => .tiles (items.map (Rect.shift dx dy))

/-! ## Offsets -/

/-- Whether adding an offset keeps what layouts ask of places: which is the lower, how far apart they are,
where their middle is, and that it does not matter when the offset is added. -/
structure Scalar.Offset (offset : α) : Prop where
  lt : ∀ a b, Scalar.lt (a + offset) (b + offset) = Scalar.lt a b
  sub : ∀ a b, a + offset - (b + offset) = a - b
  half : ∀ a b, Scalar.half (a + offset + (b + offset)) = Scalar.half (a + b) + offset
  addRight : ∀ a b, a + offset + b = a + b + offset
  addLeft : ∀ a b, a + (b + offset) = a + b + offset

section
variable {offset dx dy : α}

/-! ## Regions -/

theorem Interval.new_translate (ho : Scalar.Offset offset) (a b : α) :
    Interval.new (a + offset) (b + offset) = (Interval.new a b).translate offset := by
  unfold Interval.new
  rw [ho.lt]
  split <;> rfl

theorem Interval.size_translate (ho : Scalar.Offset offset) (i : Interval α) : (i.translate offset).size = i.size :=
  ho.sub _ _

theorem Interval.center_translate (ho : Scalar.Offset offset) (i : Interval α) :
    (i.translate offset).center = i.center + offset := ho.half _ _

/-- A run whose first step answers `f b` for `b` and that goes on to `g` of what the other comes to. -/
theorem map_bind_congr {ε β β' γ γ' : Type} {x : Except ε β} {y : Except ε β'} {f : β → β'} {g : γ → γ'}
    {k : β → Except ε γ} {l : β' → Except ε γ'} (hx : y = x.map f) (hk : ∀ b, l (f b) = (k b).map g) :
    (y >>= l) = (x >>= k).map g := by
  subst hx
  cases x with
  | error e => rfl
  | ok b => exact hk b

/-- Runs with a first step in common. -/
theorem bind_map_congr {ε β γ γ' : Type} {x : Except ε β} {g : γ → γ'} {k : β → Except ε γ} {l : β → Except ε γ'}
    (hk : ∀ b, l b = (k b).map g) : (x >>= l) = (x >>= k).map g := by
  cases x with
  | error e => rfl
  | ok b => exact hk b

namespace Dimension

theorem resolve_shift (ho : Scalar.Offset offset) {d : Dimension α} (hd : d.Ranged) (centered : Bool) :
    (d.shift offset).resolve centered = (d.resolve centered).translate offset := by
  cases d with
  | size s => exact hd.elim
  | range lo hi => exact Interval.new_translate ho lo hi

theorem resolveRect_shift (hx : Scalar.Offset dx) (hy : Scalar.Offset dy) {sizeX sizeY : Dimension α}
    (hsx : sizeX.Ranged) (hsy : sizeY.Ranged) (c : Center) :
    resolveRect (sizeX.shift dx) (sizeY.shift dy) c = (resolveRect sizeX sizeY c).map (Rect.shift dx dy) := by
  unfold resolveRect
  refine bind_map_congr fun flags => ?_
  rw [resolve_shift hx hsx, resolve_shift hy hsy]
  rfl

end Dimension

theorem Outline.points_shift (hx : Scalar.Offset dx) (hy : Scalar.Offset dy) {o : Outline α} (hox : o.sizeX.Ranged)
    (hoy : o.sizeY.Ranged) : (o.shift dx dy).points = o.points.map (List.map (Point.shift dx dy)) :=
  map_bind_congr (Dimension.resolveRect_shift hx hy hox hoy o.center) fun _ => rfl

/-- The points over two lists of moved coordinates. -/
theorem pairs_point_shift (xs ys : List α) :
    pairs Point.mk (xs.map (· + dx)) (ys.map (· + dy)) = (pairs Point.mk xs ys).map (Point.shift dx dy) := by
  rw [pairs_map, map_pairs]
  rfl

/-! ## Grids -/

theorem GridAxis.step_shift (ho : Scalar.Offset offset) {g : GridAxis α} (hg : g.Ranged) (a : Axis) (centered : Bool) :
    (g.shift offset).step a centered = (g.step a centered).map (Step.shift offset) := by
  obtain ⟨count, spacing, size⟩ := g
  obtain ⟨hmany, d, rfl, hd⟩ := hg
  have h1 : count ≠ 1 := Nat.ne_of_gt hmany
  cases spacing with
  | some s => simp [step, shift, h1, Except.map]
  | none =>
    simp only [step, shift, h1, ↓reduceIte, Option.map_some, Except.map, Dimension.resolve_shift ho hd,
      Interval.size_translate ho]
    rfl

theorem Step.coordinates_shift (ho : Scalar.Offset offset) (s : Step α) (n : Nat) :
    (s.shift offset).coordinates n = (s.coordinates n).map (· + offset) := by
  simp only [coordinates, List.map_map]
  apply List.map_congr_left
  intro i _
  exact ho.addLeft _ _

theorem Grid.points_shift (hx : Scalar.Offset dx) (hy : Scalar.Offset dy) {g : Grid α} (hgx : g.x.Ranged)
    (hgy : g.y.Ranged) : (g.shift dx dy).points = g.points.map (List.map (Point.shift dx dy)) := by
  -- the counts are checked before anything is placed
  refine bind_map_congr fun _ => bind_map_congr fun _ => bind_map_congr fun nx => bind_map_congr fun ny =>
    bind_map_congr fun _ => bind_map_congr fun flags => map_bind_congr (g.x.step_shift hx hgx .x flags.x) fun sx =>
    map_bind_congr (g.y.step_shift hy hgy .y flags.y) fun sy => ?_
  rw [Step.coordinates_shift hx, Step.coordinates_shift hy, pairs_point_shift]
  rfl

/-! ## Distributed tiles -/

namespace DistributeAxis

/-- How many tiles an axis asks for depends on the length of its extent only. -/
theorem countIn_shift (ho : Scalar.Offset offset) (a : Axis) (d : DistributeAxis α) (e : Interval α) :
    (d.shift offset).countIn a (e.translate offset) = d.countIn a e := by
  unfold countIn
  rw [Interval.size_translate ho]
  rfl

/-- A single tile stands off the middle of the extent, several are counted off from its lower end. -/
theorem positions_shift (ho : Scalar.Offset offset) (d : DistributeAxis α) (anchor : Anchor) (e : Interval α) :
    ∀ n : Nat, (d.shift offset).positions anchor (e.translate offset) n = (d.positions anchor e n).map (· + offset)
  | 0 => rfl
  | 1 => by
    simp only [positions, Interval.center_translate ho, List.map_cons, List.map_nil, ho.addRight]
    rfl
  | n + 2 => by
    simp only [positions, Interval.size_translate ho, List.map_map]
    apply List.map_congr_left
    intro k _
    simp only [Interval.translate, Function.comp_apply, ho.addRight]
    rfl

end DistributeAxis

theorem Distribute.points_shift (hx : Scalar.Offset dx) (hy : Scalar.Offset dy) {d : Distribute α}
    (hdx : d.x.size.Ranged) (hdy : d.y.size.Ranged) :
    (d.shift dx dy).points = d.points.map (List.map (Point.shift dx dy)) := by
  rw [points_eq, points_eq]
  refine bind_map_congr fun _ => bind_map_congr fun _ =>
    map_bind_congr (Dimension.resolveRect_shift hx hy hdx hdy d.center) fun region => ?_
  show ((d.x.shift dx).countIn .x (region.x.translate dx) >>= fun nx =>
    (d.y.shift dy).countIn .y (region.y.translate dy) >>= fun ny => checkedTotal nx ny >>= fun _ =>
    pure (pairs Point.mk ((d.x.shift dx).positions d.anchor (region.x.translate dx) nx)
      ((d.y.shift dy).positions d.anchor (region.y.translate dy) ny))) = _
  rw [DistributeAxis.countIn_shift hx, DistributeAxis.countIn_shift hy]
  refine bind_map_congr fun nx => bind_map_congr fun ny => bind_map_congr fun _ => ?_
  rw [DistributeAxis.positions_shift hx, DistributeAxis.positions_shift hy, pairs_point_shift]
  rfl

/-! ## Stretched tiles -/

theorem Stretch.tiles_shift (hx : Scalar.Offset dx) (hy : Scalar.Offset dy) {s : Stretch α} (hsx : s.x.size.Ranged)
    (hsy : s.y.size.Ranged) : (s.shift dx dy).tiles = s.tiles.map (List.map (Rect.shift dx dy)) := by
  refine map_bind_congr (Dimension.resolveRect_shift hx hy hsx hsy s.center) fun region => ?_
  show (s.x.fill .x (region.x.translate dx).size >>= _) = _
  rw [Interval.size_translate hx]
  refine bind_map_congr fun fx => ?_
  split
  · rfl
  · show (s.y.fill .y (region.y.translate dy).size >>= _) = _
    rw [Interval.size_translate hy]
    refine bind_map_congr fun fy => ?_
    split
    · rfl
    · -- the corners are placed by a distribution, whose ranges are moved as well
      have hcorners := (s.origins fx fy).points_shift hx hy hsx hsy
      refine map_bind_congr hcorners fun corners => ?_
      show Except.ok (List.map _ (corners.map (Point.shift dx dy))) =
        Except.ok (List.map (Rect.shift dx dy) (corners.map _))
      rw [List.map_map, List.map_map]
      refine congrArg Except.ok (List.map_congr_left fun p _ => ?_)
      simp only [Function.comp_apply, Point.shift, Rect.new, hx.addRight, hy.addRight, Interval.new_translate hx,
        Interval.new_translate hy]
      rfl

/-! ## The law -/

omit [Scalar α] in
/-- Making an output of what a moved run lists. -/
theorem map_output {γ : Type} {f : γ → γ} {o : γ → Output α} {g : Output α → Output α}
    {x y : Except (LayoutError α) γ} (hx : y = x.map f) (h : ∀ c, o (f c) = g (o c)) :
    y.map o = (x.map o).map g := by
  subst hx
  cases x with
  | error e => rfl
  | ok c => exact congrArg Except.ok (h c)

/-- An offset that adds up as lengths should carries every run with explicit bounds along. -/
theorem Job.run_shift (hx : Scalar.Offset dx) (hy : Scalar.Offset dy) {j : Job α} (hj : j.Ranged) :
    (j.shift dx dy).run = j.run.map (Output.shift dx dy) := by
  cases j with
  | dims d => exact hj.elim
  | rect o => exact map_output (o := .points) (Outline.points_shift hx hy hj.1 hj.2) fun _ => rfl
  | grid g => exact map_output (o := .points) (Grid.points_shift hx hy hj.1 hj.2) fun _ => rfl
  | distribute d => exact map_output (o := .points) (Distribute.points_shift hx hy hj.1 hj.2) fun _ => rfl
  | stretch s => exact map_output (o := .tiles) (Stretch.tiles_shift hx hy hj.1 hj.2) fun _ => rfl

end

theorem offset_rat (δ : Rat) : Scalar.Offset δ where
  lt a b := by simp
  sub a b := add_sub_add_right_eq_sub a b δ
  half a b := by simp only [half_rat]; ring
  addRight a b := add_right_comm a δ b
  addLeft a b := (add_assoc a b δ).symm

/-- On the extended line a rational offset leaves the ends where they are. -/
theorem offset_finite (δ : Rat) : Scalar.Offset (Reach.finite δ) where
  lt := Reach.lt_add_finite δ
  sub := Reach.sub_add_finite δ
  half := Reach.middle_add_finite δ
  addRight a b := by
    show Reach.add (Reach.add a (.finite δ)) b = Reach.add (Reach.add a b) (.finite δ)
    rw [Reach.add_assoc, Reach.add_comm (.finite δ) b, Reach.add_assoc]
  addLeft a b := (Reach.add_assoc a b (.finite δ)).symm

/-! ### On the extended line -/

theorem Dimension.finite_shift (δ : Rat) (d : Dimension Rat) :
    (d.shift δ).map Reach.finite = (d.map Reach.finite).shift (.finite δ) := by cases d <;> rfl

theorem GridAxis.finite_shift (δ : Rat) (g : GridAxis Rat) :
    (g.shift δ).map Reach.finite = (g.map Reach.finite).shift (.finite δ) := by
  obtain ⟨count, spacing, size⟩ := g
  cases size with
  | none => rfl
  | some d => simp only [GridAxis.shift, GridAxis.map, Option.map_some, Dimension.finite_shift]

theorem Job.finite_shift (dx dy : Rat) (j : Job Rat) :
    (j.shift dx dy).map Reach.finite = (j.map Reach.finite).shift (.finite dx) (.finite dy) := by
  cases j with
  | dims d => rfl
  | rect o => simp only [Job.shift, Job.map, Outline.shift, Outline.map, Dimension.finite_shift]
  | grid g => simp only [Job.shift, Job.map, Grid.shift, Grid.map, GridAxis.finite_shift]
  | distribute d =>
    simp only [Job.shift, Job.map, Distribute.shift, Distribute.map, DistributeAxis.shift, DistributeAxis.map,
      Dimension.finite_shift]
  | stretch s =>
    simp only [Job.shift, Job.map, Stretch.shift, Stretch.map, StretchAxis.shift, StretchAxis.map,
      Dimension.finite_shift]

/-- **Layouts move with their region.** With both bounds of the two ranges of a request moved by an
offset per axis, its run gives the same number of points or tiles, every point and every bound moved, or
the same error. So it does as well where a quotient by zero is an end of the line. -/
theorem layouts_move_with_region (j : Job Rat) (hj : j.Ranged) (dx dy : Rat) :
    (j.shift dx dy).run = j.run.map (Output.shift dx dy) ∧
      ((j.shift dx dy).map Reach.finite).run =
        (j.map Reach.finite).run.map (Output.shift (.finite dx) (.finite dy)) := by
  refine ⟨Job.run_shift (offset_rat dx) (offset_rat dy) hj, ?_⟩
  rw [Job.finite_shift]
  exact Job.run_shift (offset_finite dx) (offset_finite dy) hj.map

/-- A single column in the middle of a range that is given upside down, by as many rows as fit. -/
def singleColumn : Job Rat := .distribute
  { x := { size := .range 3 (-1), tileSize := 5 / 2, minSpacing := 0 }
    y := { size := .range 0 10, tileSize := 2, minSpacing := 1 }
    anchor := .origin }

theorem single_column_moves :
    singleColumn.Ranged ∧ (singleColumn.run.toOption.map Output.size = some 3 ∧
      (singleColumn.map Reach.finite).run.toOption.map Output.size = some 3) ∧
    (singleColumn.shift 7 (-2 / 3)).run = singleColumn.run.map (Output.shift 7 (-2 / 3)) ∧
    ((singleColumn.shift 7 (-2 / 3)).map Reach.finite).run =
      (singleColumn.map Reach.finite).run.map (Output.shift (.finite 7) (.finite (-2 / 3))) := by
  have hranged : singleColumn.Ranged := ⟨trivial, trivial⟩
  exact ⟨hranged, ⟨by decide +kernel, by decide +kernel⟩, layouts_move_with_region singleColumn hranged 7 (-2 / 3)⟩

end SketchLayout
