import Mathlib.Algebra.Order.Field.Basic
import Mathlib.Algebra.Order.Ring.Rat
import Mathlib.Tactic.Ring
import SketchLayout.Proofs.Line
import SketchLayout.Proofs.Placement

/-!
# Layouts in other units

`map` tells a request, an output or an error in other lengths, and leaves counts, axes and centerings
as they are. A map between lengths that keeps what layouts ask of them (`Scalar.Rescales`) carries
every run along: the run of the request in other lengths is the run in other lengths (`Job.run_map`).
Changing the unit of exact lengths is such a map, which is all that rational arithmetic is needed for.
-/

namespace SketchLayout

variable {α β : Type}

/-! ## Other lengths -/

def Interval.map (φ : α → β) (i : Interval α) : Interval β := ⟨φ i.min, φ i.max⟩

def Point.map (φ : α → β) (p : Point α) : Point β := ⟨φ p.x, φ p.y⟩

def Rect.map (φ : α → β) (r : Rect α) : Rect β := ⟨r.x.map φ, r.y.map φ⟩

def Dimension.map (φ : α → β) : Dimension α → Dimension β
  | size s => .size (φ s)
  | range lo hi => .range (φ lo) (φ hi)

def Dims.map (φ : α → β) (d : Dims α) : Dims β := ⟨d.specs.map (Dimension.map φ), d.center⟩

def Outline.map (φ : α → β) (o : Outline α) : Outline β := ⟨o.sizeX.map φ, o.sizeY.map φ, o.center⟩

def GridAxis.map (φ : α → β) (g : GridAxis α) : GridAxis β :=
  ⟨g.count, g.spacing.map φ, g.size.map (Dimension.map φ)⟩

def Grid.map (φ : α → β) (g : Grid α) : Grid β := ⟨g.x.map φ, g.y.map φ, g.center⟩

def Step.map (φ : α → β) (s : Step α) : Step β := ⟨φ s.step, φ s.offset⟩

def DistributeAxis.map (φ : α → β) (d : DistributeAxis α) : DistributeAxis β :=
  ⟨d.size.map φ, φ d.tileSize, d.count, φ d.minSpacing⟩

def Distribute.map (φ : α → β) (d : Distribute α) : Distribute β := ⟨d.x.map φ, d.y.map φ, d.center, d.anchor⟩

def StretchAxis.map (φ : α → β) (s : StretchAxis α) : StretchAxis β :=
  ⟨s.size.map φ, s.count, s.minTile.map φ, s.maxTile.map φ, φ s.spacing⟩

def Stretch.map (φ : α → β) (s : Stretch α) : Stretch β := ⟨s.x.map φ, s.y.map φ, s.center⟩

def Fill.map (φ : α → β) (f : Fill α) : Fill β := ⟨f.count, φ f.tile⟩

/-- A request in other lengths. -/
def Job.map (φ : α → β) : Job α → Job β
  | dims d => .dims (d.map φ)
  | rect o => .rect (o.map φ)
  | grid g => .grid (g.map φ)
  | distribute d => .distribute (d.map φ)
  | stretch s => .stretch (s.map φ)

theorem Dimension.map_id : Dimension.map (id : α → α) = id := by
  funext d
  cases d <;> rfl

theorem Dimension.map_comp {γ : Type} (ψ : β → γ) (φ : α → β) :
    Dimension.map ψ ∘ Dimension.map φ = Dimension.map (ψ ∘ φ) := by
  funext d
  cases d <;> rfl

theorem Dimension.map_map {γ : Type} (ψ : β → γ) (φ : α → β) (d : Dimension α) :
    (d.map φ).map ψ = d.map (ψ ∘ φ) := congrFun (Dimension.map_comp ψ φ) d

theorem Job.map_id (j : Job α) : j.map id = j := by
  cases j with
  | dims d => simp [Job.map, Dims.map, Dimension.map_id]
  | rect o => simp [Job.map, Outline.map, Dimension.map_id]
  | grid g => simp [Job.map, Grid.map, GridAxis.map, Dimension.map_id]
  | distribute d => simp [Job.map, Distribute.map, DistributeAxis.map, Dimension.map_id]
  | stretch s => simp [Job.map, Stretch.map, StretchAxis.map, Dimension.map_id]

theorem Job.map_map {γ : Type} (ψ : β → γ) (φ : α → β) (j : Job α) : (j.map φ).map ψ = j.map (ψ ∘ φ) := by
  cases j with
  | dims d => simp [Job.map, Dims.map, Dimension.map_comp]
  | rect o => simp [Job.map, Outline.map, Dimension.map_map]
  | grid g => simp [Job.map, Grid.map, GridAxis.map, Dimension.map_comp]
  | distribute d => simp [Job.map, Distribute.map, DistributeAxis.map, Dimension.map_map]
  | stretch s => simp [Job.map, Stretch.map, StretchAxis.map, Dimension.map_map]

def Output.map (φ : α → β) : Output α → Output β
  | intervals items => .intervals (items.map (Interval.map φ))
  | points items => .points (items.map (Point.map φ))
  | tiles items => .tiles (items.map (Rect.map φ))

/-- An error in other lengths: a tile that is not positive is reported with its size. -/
def LayoutError.map (φ : α → β) : LayoutError α → LayoutError β
  | invalidTileSize a size => .invalidTileSize a (φ size)
  | invalidCenter spec d => .invalidCenter spec d
  | invalidCount a => .invalidCount a
  | spacingConflict a => .spacingConflict a
  | spacingMissing a => .spacingMissing a
  | stretchUnconstrained a => .stretchUnconstrained a
  | countTooLarge a => .countTooLarge a
  | tooManyPositions nx ny => .tooManyPositions nx ny
  | invalidDimension text => .invalidDimension text
  | invalidAnchor text => .invalidAnchor text

/-- What a run comes to in other lengths, its answer taken along by `f`. -/
def rescaled {γ δ : Type} (φ : α → β) (f : γ → δ) : Except (LayoutError α) γ → Except (LayoutError β) δ
  | .ok c => .ok (f c)
  | .error e => .error (e.map φ)

theorem rescaled_bind {γ δ γ' δ' : Type} {φ : α → β} {f : γ → δ} {f' : γ' → δ'} {x : Except (LayoutError α) γ}
    {y : Except (LayoutError β) δ} {k : γ → Except (LayoutError α) γ'} {l : δ → Except (LayoutError β) δ'}
    (hx : y = rescaled φ f x) (hk : ∀ c, l (f c) = rescaled φ f' (k c)) :
    (y >>= l) = rescaled φ f' (x >>= k) := by
  subst hx
  cases x with
  | error e => rfl
  | ok c => exact hk c

/-- The points over two lists of coordinates in other lengths. -/
theorem pairs_point_map (φ : α → β) (xs ys : List α) :
    pairs Point.mk (xs.map φ) (ys.map φ) = (pairs Point.mk xs ys).map (Point.map φ) := by
  rw [pairs_map, map_pairs]
  rfl

variable [Scalar α] [Scalar β]

/-- Whether a map between lengths keeps what layouts ask of them: how lengths add up, how they are
counted off and divided, which is the shorter, and how often one goes into another. -/
structure Scalar.Rescales (φ : α → β) : Prop where
  zero : φ Scalar.zero = Scalar.zero
  add : ∀ a b, φ (a + b) = φ a + φ b
  sub : ∀ a b, φ (a - b) = φ a - φ b
  neg : ∀ a, φ (-a) = -φ a
  timesLeft : ∀ (n : Nat) (a), φ (Scalar.ofNat n * a) = Scalar.ofNat n * φ a
  timesRight : ∀ (a) (n : Nat), φ (a * Scalar.ofNat n) = φ a * Scalar.ofNat n
  parts : ∀ (a) (n : Nat), φ (a / Scalar.ofNat n) = φ a / Scalar.ofNat n
  lt : ∀ a b, Scalar.lt (φ a) (φ b) = Scalar.lt a b
  le : ∀ a b, Scalar.le (φ a) (φ b) = Scalar.le a b
  ratio : ∀ a b, Scalar.reach (φ a / φ b) = Scalar.reach (a / b)

variable {φ : α → β}

theorem Scalar.Rescales.half (hφ : Scalar.Rescales φ) (a : α) : φ (Scalar.half a) = Scalar.half (φ a) := hφ.parts a 2

/-! ## Regions -/

theorem Interval.new_map (hφ : Scalar.Rescales φ) (a b : α) : Interval.new (φ a) (φ b) = (Interval.new a b).map φ := by
  unfold Interval.new
  rw [hφ.lt]
  split <;> rfl

theorem Interval.size_map (hφ : Scalar.Rescales φ) (i : Interval α) : (i.map φ).size = φ i.size := (hφ.sub _ _).symm

theorem Interval.center_map (hφ : Scalar.Rescales φ) (i : Interval α) : (i.map φ).center = φ i.center := by
  rw [Interval.center, Interval.center, hφ.half, hφ.add]
  rfl

omit [Scalar α] [Scalar β] in
theorem Center.resolve_map (c : Center) (d : Dimensionality) :
    (c.resolve d : Except (LayoutError β) CenterFlags) = rescaled φ id (c.resolve d) := by
  cases c with
  | flag on => cases on <;> rfl
  | axes letters =>
    unfold Center.resolve
    simp only
    split <;> rfl

namespace Dimension

theorem resolve_map (hφ : Scalar.Rescales φ) (d : Dimension α) (centered : Bool) :
    (d.map φ).resolve centered = (d.resolve centered).map φ := by
  cases d with
  | range lo hi => exact Interval.new_map hφ lo hi
  | size s =>
    cases centered
    · show Interval.new Scalar.zero (φ s) = (Interval.new Scalar.zero s).map φ
      rw [← Interval.new_map hφ, hφ.zero]
    · show Interval.new (Scalar.half (-φ s)) (Scalar.half (φ s)) =
        (Interval.new (Scalar.half (-s)) (Scalar.half s)).map φ
      rw [← Interval.new_map hφ, hφ.half, hφ.half, hφ.neg]

theorem resolveRect_map (hφ : Scalar.Rescales φ) (dx dy : Dimension α) (c : Center) :
    resolveRect (dx.map φ) (dy.map φ) c = rescaled φ (Rect.map φ) (resolveRect dx dy c) := by
  refine rescaled_bind (c.resolve_map .two) fun flags => ?_
  show Except.ok (Rect.mk ((dx.map φ).resolve flags.x) ((dy.map φ).resolve flags.y)) = _
  rw [resolve_map hφ, resolve_map hφ]
  rfl

theorem resolveList_map (hφ : Scalar.Rescales φ) (ds : List (Dimension α)) (c : Center) :
    resolveList (ds.map (Dimension.map φ)) c = rescaled φ (List.map (Interval.map φ)) (resolveList ds c) := by
  refine rescaled_bind (c.resolve_map .three) fun flags => ?_
  show Except.ok (List.zipWith resolve (ds.map (Dimension.map φ)) (flags.toList .three)) =
    Except.ok ((List.zipWith resolve ds (flags.toList .three)).map (Interval.map φ))
  rw [List.zipWith_map_left, List.map_zipWith]
  simp only [resolve_map hφ]

end Dimension

/-! ## Counts -/

omit [Scalar α] [Scalar β] in
theorem checkedCount_map (a : Axis) (n : Nat) :
    (checkedCount a n : Except (LayoutError β) Nat) = rescaled φ id (checkedCount a n) := by
  unfold checkedCount
  split <;> rfl

omit [Scalar α] [Scalar β] in
theorem inferredCount_map (a : Axis) (n : Option Nat) :
    (inferredCount a n : Except (LayoutError β) Nat) = rescaled φ id (inferredCount a n) := by
  cases n with
  | none => rfl
  | some n => exact checkedCount_map a n

omit [Scalar α] [Scalar β] in
theorem checkedTotal_map (nx ny : Nat) :
    (checkedTotal nx ny : Except (LayoutError β) Nat) = rescaled φ id (checkedTotal nx ny) := by
  unfold checkedTotal
  split <;> rfl

/-! ## Grids -/

namespace GridAxis

omit [Scalar α] [Scalar β] in
theorem checkedPositive_map (a : Axis) (g : GridAxis α) :
    (g.map φ).checkedPositive a = rescaled φ id (g.checkedPositive a) := by
  unfold checkedPositive
  show (if g.count = 0 then _ else _) = _
  split <;> rfl

theorem step_map (hφ : Scalar.Rescales φ) (a : Axis) (g : GridAxis α) (centered : Bool) :
    (g.map φ).step a centered = rescaled φ (Step.map φ) (g.step a centered) := by
  obtain ⟨count, spacing, size⟩ := g
  by_cases h1 : count = 1
  · simp [step, map, h1, rescaled, Step.map, hφ.zero]
  · cases spacing with
    | none =>
      cases size with
      | none => simp [step, map, h1, rescaled, LayoutError.map]
      | some d =>
        simp only [step, map, h1, ↓reduceIte, Option.map_none, Option.map_some, rescaled, Step.map,
          Dimension.resolve_map hφ, Interval.size_map hφ, hφ.parts]
        rfl
    | some s =>
      cases size with
      | some d => simp [step, map, h1, rescaled, LayoutError.map]
      | none =>
        cases centered <;>
          simp [step, map, h1, rescaled, Step.map, hφ.half, hφ.timesRight, hφ.neg, hφ.zero]

end GridAxis

theorem Step.coordinates_map (hφ : Scalar.Rescales φ) (s : Step α) (n : Nat) :
    (s.map φ).coordinates n = (s.coordinates n).map φ := by
  simp only [Step.coordinates, List.map_map]
  apply List.map_congr_left
  intro i _
  simp [Step.map, hφ.add, hφ.timesLeft]

theorem Grid.points_map (hφ : Scalar.Rescales φ) (g : Grid α) :
    (g.map φ).points = rescaled φ (List.map (Point.map φ)) g.points := by
  refine rescaled_bind (g.x.checkedPositive_map .x) fun _ => rescaled_bind (g.y.checkedPositive_map .y) fun _ =>
    rescaled_bind (checkedCount_map .x _) fun nx => rescaled_bind (checkedCount_map .y _) fun ny =>
    rescaled_bind (checkedTotal_map nx ny) fun _ => rescaled_bind (g.center.resolve_map .two) fun flags =>
    rescaled_bind (g.x.step_map hφ .x flags.x) fun sx => rescaled_bind (g.y.step_map hφ .y flags.y) fun sy => ?_
  show Except.ok (pairs Point.mk ((sx.map φ).coordinates nx) ((sy.map φ).coordinates ny)) = _
  rw [Step.coordinates_map hφ, Step.coordinates_map hφ, pairs_point_map]
  rfl

/-! ## Distributed tiles -/

namespace DistributeAxis

theorem checkedTile_map (hφ : Scalar.Rescales φ) (a : Axis) (d : DistributeAxis α) :
    (d.map φ).checkedTile a = rescaled φ id (d.checkedTile a) := by
  have hle : Scalar.le (φ d.tileSize) Scalar.zero = Scalar.le d.tileSize Scalar.zero := by rw [← hφ.zero, hφ.le]
  unfold checkedTile
  show (if Scalar.le (φ d.tileSize) Scalar.zero then _ else _) = _
  rw [hle]
  split <;> rfl

theorem asked_map (hφ : Scalar.Rescales φ) (d : DistributeAxis α) (e : Interval α) :
    (d.map φ).asked (e.map φ) = d.asked e := by
  have hratio : Scalar.reach (((e.map φ).size + φ d.minSpacing) / (φ d.tileSize + φ d.minSpacing)) =
      Scalar.reach ((e.size + d.minSpacing) / (d.tileSize + d.minSpacing)) := by
    rw [Interval.size_map hφ, ← hφ.add, ← hφ.add, hφ.ratio]
  unfold asked
  cases hcount : d.count with
  | some n =>
    have hmap : (d.map φ).count = some n := hcount
    rw [hmap]
  | none =>
    have hmap : (d.map φ).count = none := hcount
    rw [hmap]
    exact congrArg Reach.fitting hratio

theorem countIn_map (hφ : Scalar.Rescales φ) (a : Axis) (d : DistributeAxis α) (e : Interval α) :
    (d.map φ).countIn a (e.map φ) = rescaled φ id (d.countIn a e) := by
  rw [countIn_eq, countIn_eq, asked_map hφ, inferredCount_map]

theorem positions_map (hφ : Scalar.Rescales φ) (d : DistributeAxis α) (anchor : Anchor) (e : Interval α) :
    ∀ n : Nat, (d.map φ).positions anchor (e.map φ) n = (d.positions anchor e n).map φ
  | 0 => rfl
  | 1 => by
    cases anchor <;>
      simp [positions, map, Interval.center_map hφ, hφ.add, hφ.half, hφ.neg, hφ.zero]
  | n + 2 => by
    simp only [positions, List.map_map]
    apply List.map_congr_left
    intro k _
    have hdelta : ((e.map φ).size - (d.map φ).tileSize) / Scalar.ofNat (n + 1) =
        φ ((e.size - d.tileSize) / Scalar.ofNat (n + 1)) := by
      rw [Interval.size_map hφ, hφ.parts, hφ.sub]
      rfl
    rw [hdelta]
    cases anchor <;>
      simp [map, Interval.map, hφ.add, hφ.timesLeft, hφ.half, hφ.zero]

end DistributeAxis

theorem Distribute.points_map (hφ : Scalar.Rescales φ) (d : Distribute α) :
    (d.map φ).points = rescaled φ (List.map (Point.map φ)) d.points := by
  rw [Distribute.points_eq, Distribute.points_eq]
  refine rescaled_bind (d.x.checkedTile_map hφ .x) fun _ => rescaled_bind (d.y.checkedTile_map hφ .y) fun _ =>
    rescaled_bind (Dimension.resolveRect_map hφ d.x.size d.y.size d.center) fun region =>
    rescaled_bind (d.x.countIn_map hφ .x region.x) fun nx => rescaled_bind (d.y.countIn_map hφ .y region.y) fun ny =>
    rescaled_bind (checkedTotal_map nx ny) fun _ => ?_
  show Except.ok (pairs Point.mk ((d.x.map φ).positions d.anchor (region.x.map φ) nx)
    ((d.y.map φ).positions d.anchor (region.y.map φ) ny)) = _
  rw [DistributeAxis.positions_map hφ, DistributeAxis.positions_map hφ, pairs_point_map]
  rfl

/-! ## Stretched tiles -/

namespace Fill

theorem stretched_map (hφ : Scalar.Rescales φ) (n : Nat) (extent spacing : α) :
    stretched n (φ extent) (φ spacing) = (stretched n extent spacing).map φ := by
  unfold stretched
  split
  · simp [empty, map, hφ.zero]
  · simp [map, hφ.sub, hφ.parts, hφ.add]

theorem derived_map (hφ : Scalar.Rescales φ) (n : Nat) (extent spacing : α) :
    derived n (φ extent) (φ spacing) = (derived n extent spacing).map φ := by
  have hle : ∀ a : α, Scalar.le (φ a) Scalar.zero = Scalar.le a Scalar.zero := by
    intro a; rw [← hφ.zero, hφ.le]
  unfold derived
  simp only [stretched_map hφ]
  show (if Scalar.le (φ extent) Scalar.zero || Scalar.le (φ (stretched n extent spacing).tile) Scalar.zero then _
    else _) = _
  rw [hle, hle]
  split
  · simp [empty, map, hφ.zero]
  · rfl

end Fill

namespace StretchAxis

theorem ratio_map (hφ : Scalar.Rescales φ) (s : StretchAxis α) (extent tile : α) :
    Scalar.reach ((s.map φ).ratio (φ extent) (φ tile)) = Scalar.reach (s.ratio extent tile) := by
  show Scalar.reach ((φ extent + φ s.spacing) / (φ tile + φ s.spacing)) = _
  rw [← hφ.add, ← hφ.add, hφ.ratio]
  rfl

theorem fewest_map (hφ : Scalar.Rescales φ) (a : Axis) (s : StretchAxis α) (extent tile : α) :
    (s.map φ).fewest a (φ extent) (φ tile) = rescaled φ (Fill.map φ) (s.fewest a extent tile) := by
  unfold fewest
  rw [ratio_map hφ]
  refine rescaled_bind (inferredCount_map a _) fun n => ?_
  exact congrArg Except.ok (Fill.derived_map hφ n extent s.spacing)

theorem most_map (hφ : Scalar.Rescales φ) (a : Axis) (s : StretchAxis α) (extent tile : α) :
    (s.map φ).most a (φ extent) (φ tile) = rescaled φ (Fill.map φ) (s.most a extent tile) := by
  unfold most
  rw [ratio_map hφ]
  refine rescaled_bind (inferredCount_map a _) fun n => ?_
  exact congrArg Except.ok (Fill.derived_map hφ n extent s.spacing)

theorem fill_map (hφ : Scalar.Rescales φ) (a : Axis) (s : StretchAxis α) (extent : α) :
    (s.map φ).fill a (φ extent) = rescaled φ (Fill.map φ) (s.fill a extent) := by
  have hempty : (Except.ok Fill.empty : Except (LayoutError β) (Fill β)) =
      rescaled φ (Fill.map φ) (.ok Fill.empty) := by simp [rescaled, Fill.empty, Fill.map, hφ.zero]
  obtain ⟨size, count, minTile, maxTile, spacing⟩ := s
  cases count with
  | some n =>
    refine rescaled_bind (checkedCount_map a n) fun m => ?_
    exact congrArg Except.ok (Fill.stretched_map hφ m extent spacing)
  | none =>
    cases minTile with
    | none =>
      cases maxTile with
      | none => rfl
      | some high => exact fewest_map hφ a _ extent high
    | some low =>
      unfold fill
      show (if Scalar.lt (φ extent) (φ low) then _ else _) = rescaled φ _ (if Scalar.lt extent low then _ else _)
      rw [hφ.lt]
      split
      · exact hempty
      · cases maxTile with
        | none => exact most_map hφ a _ extent low
        | some high => exact fewest_map hφ a _ extent high

end StretchAxis

theorem Stretch.tiles_map (hφ : Scalar.Rescales φ) (s : Stretch α) :
    (s.map φ).tiles = rescaled φ (List.map (Rect.map φ)) s.tiles := by
  refine rescaled_bind (Dimension.resolveRect_map hφ s.x.size s.y.size s.center) fun region => ?_
  show ((s.x.map φ).fill .x (region.x.map φ).size >>= _) = _
  rw [Interval.size_map hφ]
  refine rescaled_bind (s.x.fill_map hφ .x region.x.size) fun fx => ?_
  show (if fx.count = 0 then _ else _) = rescaled φ _ (if fx.count = 0 then _ else _)
  split
  · rfl
  · show ((s.y.map φ).fill .y (region.y.map φ).size >>= _) = _
    rw [Interval.size_map hφ]
    refine rescaled_bind (s.y.fill_map hφ .y region.y.size) fun fy => ?_
    show (if fy.count = 0 then _ else _) = rescaled φ _ (if fy.count = 0 then _ else _)
    split
    · rfl
    · -- the corners are placed by a distribution, which is told in other lengths as well
      have horigins : (s.map φ).origins (fx.map φ) (fy.map φ) = (s.origins fx fy).map φ := by
        simp [origins, Distribute.map, DistributeAxis.map, Stretch.map, StretchAxis.map, Fill.map, hφ.zero]
      rw [horigins]
      refine rescaled_bind ((s.origins fx fy).points_map hφ) fun corners => ?_
      show Except.ok (List.map _ (corners.map (Point.map φ))) = Except.ok (List.map (Rect.map φ) (corners.map _))
      rw [List.map_map, List.map_map]
      refine congrArg Except.ok (List.map_congr_left fun p _ => ?_)
      simp only [Function.comp_apply, Rect.new, Rect.map, ← Interval.new_map hφ, hφ.add]
      rfl

/-! ## The law -/

theorem Outline.points_map (hφ : Scalar.Rescales φ) (o : Outline α) :
    (o.map φ).points = rescaled φ (List.map (Point.map φ)) o.points :=
  rescaled_bind (Dimension.resolveRect_map hφ o.sizeX o.sizeY o.center) fun _ => rfl

omit [Scalar α] [Scalar β] in
/-- Making an output of what a run lists. -/
theorem rescaled_output {γ δ : Type} {f : γ → δ} {o : γ → Output α} {p : δ → Output β}
    {x : Except (LayoutError α) γ} {y : Except (LayoutError β) δ} (hx : y = rescaled φ f x)
    (h : ∀ c, p (f c) = (o c).map φ) : y.map p = rescaled φ (Output.map φ) (x.map o) := by
  subst hx
  cases x with
  | error e => rfl
  | ok c => exact congrArg Except.ok (h c)

/-- A map that keeps what layouts ask of lengths carries every run along. -/
theorem Job.run_map (hφ : Scalar.Rescales φ) (j : Job α) : (j.map φ).run = rescaled φ (Output.map φ) j.run := by
  cases j with
  | dims d =>
    have hlist := Dimension.resolveList_map hφ d.specs d.center
    exact rescaled_output (o := .intervals) (p := .intervals) hlist fun _ => rfl
  | rect o => exact rescaled_output (o := .points) (p := .points) (o.points_map hφ) fun _ => rfl
  | grid g => exact rescaled_output (o := .points) (p := .points) (g.points_map hφ) fun _ => rfl
  | distribute d => exact rescaled_output (o := .points) (p := .points) (d.points_map hφ) fun _ => rfl
  | stretch s => exact rescaled_output (o := .tiles) (p := .tiles) (s.tiles_map hφ) fun _ => rfl

/-- Exact lengths in another unit, of which `c` make one of the old. -/
theorem rescales_mul {c : Rat} (hc : 0 < c) : Scalar.Rescales (c * · : Rat → Rat) where
  zero := by simp
  add a b := mul_add c a b
  sub a b := mul_sub c a b
  neg a := mul_neg c a
  timesLeft n a := mul_left_comm c n a
  timesRight a n := (mul_assoc c a n).symm
  parts a n := mul_div_assoc c a n |>.symm
  lt a b := by simp [hc]
  le a b := by simp [hc]
  ratio a b := congrArg Reach.finite (mul_div_mul_left a b hc.ne')

/-- Lengths on the extended line in another unit. -/
theorem rescales_scale {c : Rat} (hc : 0 < c) : Scalar.Rescales (Reach.scale c) where
  zero := congrArg Reach.finite (mul_zero c)
  add := Reach.scale_add
  sub a b := (Reach.scale_add a b.neg).trans (congrArg (Reach.add (a.scale c)) (Reach.scale_neg b))
  neg := Reach.scale_neg
  timesLeft n a := Reach.scale_mul_left n a
  timesRight a n := Reach.scale_mul_right a n
  parts a n := Reach.scale_div hc a n
  lt := Reach.lt_scale hc
  le := Reach.le_scale hc
  ratio := Reach.div_scale hc

/-- **Layouts do not depend on the unit of length.** With every length of a request multiplied by the
same positive number its run gives the same items in the same order, every coordinate multiplied, or
the same error about the same axis, the size of a tile that is not positive multiplied. So it does as
well where a quotient by zero leaves the rationals for an end of the line, as that of doubles does. -/
theorem run_in_other_unit (c : Rat) (hc : 0 < c) (j : Job Rat) :
    (j.map (c * ·)).run = rescaled (c * ·) (Output.map (c * ·)) j.run ∧
      ((j.map (c * ·)).map Reach.finite).run =
        rescaled (Reach.scale c) (Output.map (Reach.scale c)) (j.map Reach.finite).run := by
  refine ⟨j.run_map (rescales_mul hc), ?_⟩
  have hline : (j.map (c * ·)).map Reach.finite = (j.map Reach.finite).map (Reach.scale c) := by
    rw [Job.map_map, Job.map_map]
    rfl
  rw [hline]
  exact (j.map Reach.finite).run_map (rescales_scale hc)

/-- Tiles that may lie on one another: on the line no number of them is enough. -/
example : ((Job.distribute ⟨⟨.size 9, 2, none, -2⟩, ⟨.size 9, 2, none, 0⟩, .default, .center⟩).map
    Reach.finite).run = .error (.countTooLarge .x) := by decide +kernel

/-- A panel of nine by six inches, its tiles at least two inches wide and three to a column. -/
def panel : Job Rat :=
  .stretch ⟨{ size := .size 9, minTile := some 2, spacing := 1 / 4 },
    { size := .range 5 (-1), count := some 3, spacing := 0 }, .axes "x"⟩

/-- The panel in inches and in millimetres holds the same twelve tiles. -/
theorem panel_in_millimetres :
    (0 : Rat) < 127 / 5 ∧ (panel.run.toOption.map Output.size = some 12 ∧
      (panel.map Reach.finite).run.toOption.map Output.size = some 12) ∧
    (panel.map (127 / 5 * ·)).run = rescaled (127 / 5 * ·) (Output.map (127 / 5 * ·)) panel.run ∧
    ((panel.map (127 / 5 * ·)).map Reach.finite).run =
      rescaled (Reach.scale (127 / 5)) (Output.map (Reach.scale (127 / 5))) (panel.map Reach.finite).run :=
  ⟨by decide +kernel, ⟨by decide +kernel, by decide +kernel⟩, run_in_other_unit (127 / 5) (by decide +kernel) panel⟩

end SketchLayout
