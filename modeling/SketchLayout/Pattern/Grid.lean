import SketchLayout.Pattern.Basic

/-!
# `pattern_grid`

A grid of points, given along each axis by a count and either the spacing between neighbours or the
size from the first point to the last. A single point along an axis needs neither and lies at zero.

| definition | stands for |
| --- | --- |
| `Grid`, with a `GridAxis` for each axis | `GridPattern` |
| `GridAxis.step` | `axis_step` |
-/

namespace SketchLayout

structure GridAxis (α : Type) where
  count : Nat
  spacing : Option α := none
  size : Option (Dimension α) := none
  deriving DecidableEq, Repr

structure Grid (α : Type) where
  x : GridAxis α
  y : GridAxis α
  center : Center := .default
  deriving DecidableEq, Repr

/-- The first point along an axis and the step to the next. -/
structure Step (α : Type) where
  step : α
  offset : α
  deriving DecidableEq, Repr

namespace GridAxis

variable {α : Type} [Scalar α]

/-- A grid has points along every axis. -/
def checkedPositive (a : Axis) (g : GridAxis α) : Except (LayoutError α) Unit :=
  if g.count = 0 then .error (.invalidCount a) else .ok ()

/-- The step along an axis: that of a single point, the spacing around or from zero, or the size
divided by the gaps. -/
def step (a : Axis) (g : GridAxis α) (centered : Bool) : Except (LayoutError α) (Step α) :=
  if g.count = 1 then .ok ⟨Scalar.zero, Scalar.zero⟩
  else
    let gaps : α := Scalar.ofNat (g.count - 1)
    match g.spacing, g.size with
    | some _, some _ => .error (.spacingConflict a)
    | none, none => .error (.spacingMissing a)
    | none, some size =>
      let extent := size.resolve centered
      .ok ⟨extent.size / gaps, extent.min⟩
    | some spacing, none =>
      .ok ⟨spacing, if centered then Scalar.half (-spacing * gaps) else Scalar.zero⟩

end GridAxis

/-- The coordinates along an axis: `count` points, one step apart. -/
def Step.coordinates {α : Type} [Scalar α] (s : Step α) (count : Nat) : List α :=
  (List.range count).map fun i => Scalar.ofNat i * s.step + s.offset

/-- The points of a grid, column by column. -/
def Grid.points {α : Type} [Scalar α] (g : Grid α) : Except (LayoutError α) (List (Point α)) := do
  g.x.checkedPositive .x
  g.y.checkedPositive .y
  let countX ← checkedCount .x g.x.count
  let countY ← checkedCount .y g.y.count
  let _ ← checkedTotal countX countY
  let flags ← g.center.resolve .two
  let stepX ← g.x.step .x flags.x
  let stepY ← g.y.step .y flags.y
  return pairs Point.mk (stepX.coordinates countX) (stepY.coordinates countY)

end SketchLayout
