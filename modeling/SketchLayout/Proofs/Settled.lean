import SketchLayout.Proofs.Doubles
import SketchLayout.Proofs.Run

/-!
# Settled requests

A request reads its dimensions and its centering to find where it lies, and never again. Settling it
puts the range that a dimension resolves to in the place of the dimension. A settled request comes to
what the request came to, errors included and under every valid centering (`Job.run_settle`): its
ranges are not centered once more, and settling twice is settling once.

Only one law of lengths is used: of two lengths at most one is the shorter (`Scalar.Asymm`). Doubles
keep it, those that are no numbers included.
-/

namespace SketchLayout

/-! ## An asymmetric order -/

/-- Of two lengths at most one is the shorter. -/
class Scalar.Asymm (α : Type) [Scalar α] : Prop where
  lt_asymm : ∀ {a b : α}, Scalar.lt a b = true → Scalar.lt b a = false

instance : Scalar.Asymm Float where
  lt_asymm {a b} h := by
    rw [Scalar.lt_float] at h ⊢
    exact Reach.lt_asymm h

section
variable {α : Type} [Scalar α] [Scalar.Asymm α]

/-- The bounds of an interval that was built are in order, and building it again keeps them. -/
theorem Interval.new_new (a b : α) : Interval.new (Interval.new a b).min (Interval.new a b).max = Interval.new a b := by
  by_cases hba : Scalar.lt b a = true
  · have hab := Scalar.Asymm.lt_asymm hba
    simp [Interval.new, hba, hab]
  · simp [Interval.new, hba]

/-! ## Dimensions -/

namespace Dimension

omit [Scalar.Asymm α] in
theorem exists_resolve_eq_new (d : Dimension α) (centered : Bool) : ∃ a b, d.resolve centered = .new a b := by
  cases d with
  | range lo hi => exact ⟨lo, hi, rfl⟩
  | size s => cases centered <;> exact ⟨_, _, rfl⟩

/-- The range that a dimension resolves to. -/
def settle (d : Dimension α) (centered : Bool) : Dimension α :=
  .range (d.resolve centered).min (d.resolve centered).max

@[simp] theorem resolve_settle (d : Dimension α) (centered again : Bool) :
    (d.settle centered).resolve again = d.resolve centered := by
  obtain ⟨a, b, h⟩ := d.exists_resolve_eq_new centered
  show Interval.new (d.resolve centered).min (d.resolve centered).max = d.resolve centered
  rw [h, Interval.new_new]

@[simp] theorem settle_settle (d : Dimension α) (centered again : Bool) :
    (d.settle centered).settle again = d.settle centered := by
  rw [settle, resolve_settle, settle]

/-- The first three dimensions settled, one flag each, and the rest as they are. -/
def settleList (ds : List (Dimension α)) (flags : CenterFlags) : List (Dimension α) :=
  List.zipWith settle ds (flags.toList .three) ++ ds.drop 3

theorem settleList_settleList (flags again : CenterFlags) :
    ∀ ds : List (Dimension α), settleList (settleList ds flags) again = settleList ds flags
  | [] => rfl
  | [_] | [_, _] | _ :: _ :: _ :: _ => by simp [settleList, CenterFlags.toList, Dimensionality.axes]

theorem zipWith_resolve_settleList (flags again : CenterFlags) :
    ∀ ds : List (Dimension α), List.zipWith resolve (settleList ds flags) (again.toList .three) =
      List.zipWith resolve ds (flags.toList .three)
  | [] => rfl
  | [_] | [_, _] | _ :: _ :: _ :: _ => by simp [settleList, CenterFlags.toList, Dimensionality.axes]

variable {c c' : Center} {flags flags' : CenterFlags}

theorem resolveList_settleList (ds : List (Dimension α))
    (h : (c.resolve .three : Except (LayoutError α) CenterFlags) = .ok flags)
    (h' : (c'.resolve .three : Except (LayoutError α) CenterFlags) = .ok flags') :
    resolveList (settleList ds flags) c' = resolveList ds c := by
  unfold resolveList
  rw [h, h', ok_bind, ok_bind, zipWith_resolve_settleList]

theorem resolveRect_settle (dx dy : Dimension α)
    (h : (c.resolve .two : Except (LayoutError α) CenterFlags) = .ok flags)
    (h' : (c'.resolve .two : Except (LayoutError α) CenterFlags) = .ok flags') :
    resolveRect (dx.settle flags.x) (dy.settle flags.y) c' = resolveRect dx dy c := by
  unfold resolveRect
  rw [h, h', ok_bind, ok_bind, resolve_settle, resolve_settle]

end Dimension

/-! ## Requests -/

variable {c : Center} {flags flags' : CenterFlags}

def Dims.settle (d : Dims α) (flags : CenterFlags) (c : Center) : Dims α := ⟨Dimension.settleList d.specs flags, c⟩

namespace Outline

def settle (o : Outline α) (flags : CenterFlags) (c : Center) : Outline α :=
  ⟨o.sizeX.settle flags.x, o.sizeY.settle flags.y, c⟩

theorem points_settle (o : Outline α)
    (h : (o.center.resolve .two : Except (LayoutError α) CenterFlags) = .ok flags)
    (h' : (c.resolve .two : Except (LayoutError α) CenterFlags) = .ok flags') :
    (o.settle flags c).points = o.points := by
  unfold points
  show (Dimension.resolveRect (o.sizeX.settle flags.x) (o.sizeY.settle flags.y) c >>= _) = _
  rw [Dimension.resolveRect_settle _ _ h h']

end Outline

namespace GridAxis

def settle (g : GridAxis α) (centered : Bool) : GridAxis α := { g with size := g.size.map (·.settle centered) }

/-- An axis of several points is given by a size. -/
def Sized (g : GridAxis α) : Prop := 1 < g.count → g.size ≠ none

/-- A spacing is laid around zero or from zero by the centering, a size never once it is settled. -/
theorem step_settle {g : GridAxis α} (hs : g.Sized) (hn : g.count ≠ 0) (a : Axis) (centered again : Bool) :
    (g.settle centered).step a again = g.step a centered := by
  obtain ⟨count, spacing, size⟩ := g
  by_cases h1 : count = 1
  · simp [step, settle, h1]
  · have hmany : 1 < count := Nat.lt_of_le_of_ne (Nat.pos_of_ne_zero hn) (Ne.symm h1)
    obtain ⟨d, rfl⟩ := Option.ne_none_iff_exists'.1 (hs hmany)
    cases spacing with
    | none => simp [step, settle, h1]
    | some s => simp [step, settle, h1]

end GridAxis

namespace Grid

def settle (g : Grid α) (flags : CenterFlags) (c : Center) : Grid α := ⟨g.x.settle flags.x, g.y.settle flags.y, c⟩

theorem points_settle (g : Grid α) (hx : g.x.Sized) (hy : g.y.Sized)
    (h : (g.center.resolve .two : Except (LayoutError α) CenterFlags) = .ok flags)
    (h' : (c.resolve .two : Except (LayoutError α) CenterFlags) = .ok flags') :
    (g.settle flags c).points = g.points := by
  unfold points
  -- up to the centering both runs read counts only, and go on with counts that are not zero
  refine bind_congr_ok fun _ hpx => bind_congr_ok fun _ hpy => bind_congr_ok fun _ _ =>
    bind_congr_ok fun _ _ => bind_congr_ok fun _ _ => ?_
  have hnx := GridAxis.checkedPositive_eq_ok.1 hpx
  have hny := GridAxis.checkedPositive_eq_ok.1 hpy
  show (c.resolve .two >>= fun again => (g.x.settle flags.x).step .x again.x >>= fun sx =>
    (g.y.settle flags.y).step .y again.y >>= fun sy => _) = _
  rw [h, h', ok_bind, ok_bind, GridAxis.step_settle hx hnx, GridAxis.step_settle hy hny]

end Grid

namespace Distribute

def settle (d : Distribute α) (flags : CenterFlags) (c : Center) : Distribute α where
  x := { d.x with size := d.x.size.settle flags.x }
  y := { d.y with size := d.y.size.settle flags.y }
  center := c
  anchor := d.anchor

theorem points_settle (d : Distribute α)
    (h : (d.center.resolve .two : Except (LayoutError α) CenterFlags) = .ok flags)
    (h' : (c.resolve .two : Except (LayoutError α) CenterFlags) = .ok flags') :
    (d.settle flags c).points = d.points := by
  unfold points
  refine bind_congr_ok fun _ _ => bind_congr_ok fun _ _ => ?_
  show (Dimension.resolveRect (d.x.size.settle flags.x) (d.y.size.settle flags.y) c >>= _) = _
  rw [Dimension.resolveRect_settle _ _ h h']
  rfl

end Distribute

namespace Stretch

def settle (s : Stretch α) (flags : CenterFlags) (c : Center) : Stretch α where
  x := { s.x with size := s.x.size.settle flags.x }
  y := { s.y with size := s.y.size.settle flags.y }
  center := c

theorem tiles_settle (s : Stretch α)
    (h : (s.center.resolve .two : Except (LayoutError α) CenterFlags) = .ok flags)
    (h' : (c.resolve .two : Except (LayoutError α) CenterFlags) = .ok flags') :
    (s.settle flags c).tiles = s.tiles := by
  unfold tiles
  show (Dimension.resolveRect (s.x.size.settle flags.x) (s.y.size.settle flags.y) c >>= _) = _
  rw [Dimension.resolveRect_settle _ _ h h']
  refine bind_congr_ok fun region _ => bind_congr_ok fun fx _ => ?_
  split
  · rfl
  · refine bind_congr_ok fun fy _ => ?_
    split
    · rfl
    · -- the region is found a second time, by the distribution that places the corners
      show (((s.origins fx fy).settle flags c).points >>= _) = _
      rw [Distribute.points_settle _ h h']

end Stretch

/-! ## The law -/

namespace Job

omit [Scalar α] [Scalar.Asymm α] in
def setting : Job α → Dimensionality
  | dims _ => .three
  | rect _ | grid _ | distribute _ | stretch _ => .two

omit [Scalar α] [Scalar.Asymm α] in
def center : Job α → Center
  | dims d => d.center
  | rect o => o.center
  | grid g => g.center
  | distribute d => d.center
  | stretch s => s.center

/-- A request whose grid, if it is one, is given by sizes. -/
def Sized : Job α → Prop
  | grid g => g.x.Sized ∧ g.y.Sized
  | dims _ | rect _ | distribute _ | stretch _ => True

/-- The request with its dimensions settled, under another centering. -/
def settle (flags : CenterFlags) (c : Center) : Job α → Job α
  | dims d => .dims (d.settle flags c)
  | rect o => .rect (o.settle flags c)
  | grid g => .grid (g.settle flags c)
  | distribute d => .distribute (d.settle flags c)
  | stretch s => .stretch (s.settle flags c)

theorem settle_settle (flags flags' : CenterFlags) (c : Center) (j : Job α) :
    (j.settle flags c).settle flags' c = j.settle flags c := by
  cases j with
  | dims d => simp [settle, Dims.settle, Dimension.settleList_settleList]
  | rect o => simp [settle, Outline.settle]
  | grid g => simp [settle, Grid.settle, GridAxis.settle, Function.comp_def]
  | distribute d => simp [settle, Distribute.settle]
  | stretch s => simp [settle, Stretch.settle]

/-- **A request depends on its dimensions and its centering only through where it lies.** With a valid
centering, and sizes for a grid, a request comes to the same once it is settled, whatever valid
centering then stands in it, and there is nothing left to settle. -/
theorem run_settle (j : Job α) (hs : j.Sized) (flags flags' : CenterFlags) (c : Center)
    (h : (j.center.resolve j.setting : Except (LayoutError α) CenterFlags) = .ok flags)
    (h' : (c.resolve j.setting : Except (LayoutError α) CenterFlags) = .ok flags') :
    (j.settle flags c).run = j.run ∧ (j.settle flags c).settle flags' c = j.settle flags c := by
  refine ⟨?_, j.settle_settle flags flags' c⟩
  cases j with
  | dims d => exact congrArg (Except.map Output.intervals) (Dimension.resolveList_settleList d.specs h h')
  | rect o => exact congrArg (Except.map Output.points) (o.points_settle h h')
  | grid g => exact congrArg (Except.map Output.points) (g.points_settle hs.1 hs.2 h h')
  | distribute d => exact congrArg (Except.map Output.points) (d.points_settle h h')
  | stretch s => exact congrArg (Except.map Output.tiles) (s.tiles_settle h h')

end Job

end

/-- Three columns over a size that is negative, by one row, whose spacing is no number and is not read. -/
def negSpan : Job Float :=
  .grid ⟨{ count := 3, size := some (.size (-4.5)) }, { count := 1, spacing := some (0 / 0) }, .axes "x"⟩

theorem negative_size_settled :
    negSpan.Sized ∧
      (negSpan.center.resolve negSpan.setting : Except (LayoutError Float) CenterFlags) = .ok ⟨true, false, false⟩ ∧
      ((Center.axes "yY").resolve negSpan.setting : Except (LayoutError Float) CenterFlags) = .ok ⟨false, true, false⟩ ∧
      negSpan.run.isOk ∧
      (negSpan.settle ⟨true, false, false⟩ (.axes "yY")).run = negSpan.run ∧
      (negSpan.settle ⟨true, false, false⟩ (.axes "yY")).settle ⟨false, true, false⟩ (.axes "yY") =
        negSpan.settle ⟨true, false, false⟩ (.axes "yY") := by
  have hs : negSpan.Sized := ⟨fun _ => by simp, fun h => absurd h (by decide)⟩
  have hc : (negSpan.center.resolve negSpan.setting : Except (LayoutError Float) CenterFlags) =
      .ok ⟨true, false, false⟩ := by rfl
  have hc' : ((Center.axes "yY").resolve negSpan.setting : Except (LayoutError Float) CenterFlags) =
      .ok ⟨false, true, false⟩ := by rfl
  exact ⟨hs, hc, hc', by decide +kernel, Job.run_settle negSpan hs _ _ _ hc hc'⟩

end SketchLayout
