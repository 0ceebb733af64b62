import SketchLayout.Move

/-!
# `Interval2D`

A point of the sketch plane, and a rectangle with sides along the axes: one interval per axis.

| definition | stands for |
| --- | --- |
| `Rect`, its `x` and `y` | `Interval2D`, `extent_x` and `extent_y` |
| `Rect.apply` | `expand`, `shrink`, their forms for one axis, and `translate` (see `Move`) |
| `Rect.near` | `approx_eq` |
-/

namespace SketchLayout

structure Point (α : Type) where
  x : α
  y : α
  deriving DecidableEq, Repr

structure Rect (α : Type) where
  x : Interval α
  y : Interval α
  deriving DecidableEq, Repr

namespace Rect

variable {α : Type} [Scalar α]

/-- The rectangle between two bounds per axis, in either order. -/
def new (x₁ x₂ y₁ y₂ : α) : Rect α := ⟨.new x₁ x₂, .new y₁ y₂⟩

def center (r : Rect α) : Point α := ⟨r.x.center, r.y.center⟩

def minCorner (r : Rect α) : Point α := ⟨r.x.min, r.y.min⟩

def maxCorner (r : Rect α) : Point α := ⟨r.x.max, r.y.max⟩

/-- The four corners, clockwise from the least one. -/
def corners (r : Rect α) : List (Point α) :=
  [⟨r.x.min, r.y.min⟩, ⟨r.x.min, r.y.max⟩, ⟨r.x.max, r.y.max⟩, ⟨r.x.max, r.y.min⟩]

def area (r : Rect α) : α := r.x.size * r.y.size

def contains (r : Rect α) (p : Point α) : Bool := r.x.contains p.x && r.y.contains p.y

def apply (r : Rect α) (move : Move α) : Rect α := ⟨move.along .x r.x, move.along .y r.y⟩

def near (r s : Rect α) (tolerance : α) : Bool :=
  r.x.near s.x tolerance && r.y.near s.y tolerance

end Rect

end SketchLayout
