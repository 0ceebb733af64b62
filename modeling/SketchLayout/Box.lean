import SketchLayout.Number.Numeral
import SketchLayout.Rect

/-!
# `Interval3D`

A box of space with sides along the axes: one interval per axis. An interval is written as its two
bounds in brackets; a rectangle or a box as the product of its intervals.

| definition | stands for |
| --- | --- |
| `Box` | `Interval3D` |
| `Box.apply` | `expand`, `shrink`, their forms for one axis, and `translate` (see `Move`) |
| `Box.near` | `approx_eq` |
| `Interval.toText`, `Rect.toText`, `Box.toText` | `fmt` of `Interval1D`, `Interval2D`, `Interval3D` |
-/

namespace SketchLayout

structure SpacePoint (α : Type) where
  x : α
  y : α
  z : α
  deriving DecidableEq, Repr

structure Box (α : Type) where
  x : Interval α
  y : Interval α
  z : Interval α
  deriving DecidableEq, Repr

namespace Box

variable {α : Type} [Scalar α]

/-- The box between two bounds per axis, in either order. -/
def new (x₁ x₂ y₁ y₂ z₁ z₂ : α) : Box α := ⟨.new x₁ x₂, .new y₁ y₂, .new z₁ z₂⟩

def size (b : Box α) : SpacePoint α := ⟨b.x.size, b.y.size, b.z.size⟩

def center (b : Box α) : SpacePoint α := ⟨b.x.center, b.y.center, b.z.center⟩

def minCorner (b : Box α) : SpacePoint α := ⟨b.x.min, b.y.min, b.z.min⟩

def maxCorner (b : Box α) : SpacePoint α := ⟨b.x.max, b.y.max, b.z.max⟩

/-- The product of the sizes, X by Y first. -/
def volume (b : Box α) : α := b.x.size * b.y.size * b.z.size

/-- The rectangle that the box stands on. -/
def xy (b : Box α) : Rect α := ⟨b.x, b.y⟩

def contains (b : Box α) (p : SpacePoint α) : Bool :=
  b.x.contains p.x && b.y.contains p.y && b.z.contains p.z

def apply (b : Box α) (move : Move α) : Box α :=
  ⟨move.along .x b.x, move.along .y b.y, move.along .z b.z⟩

def near (b c : Box α) (tolerance : α) : Bool :=
  b.x.near c.x tolerance && b.y.near c.y tolerance && b.z.near c.z tolerance

end Box

/-! ## Texts -/

def Interval.toText (i : Interval Float) : String :=
  "[" ++ Numeral.ofFloat i.min ++ ", " ++ Numeral.ofFloat i.max ++ "]"

def Rect.toText (r : Rect Float) : String := r.x.toText ++ " x " ++ r.y.toText

def Box.toText (b : Box Float) : String := b.xy.toText ++ " x " ++ b.z.toText

end SketchLayout
