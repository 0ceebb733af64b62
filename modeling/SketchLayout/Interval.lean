import SketchLayout.Scalar

/-!
# `Interval1D`

A closed range of lengths on one axis. An interval is built from two bounds in either order.
Growing it past its middle turns it over, so its bounds stay in order; moving it keeps its size.

| definition | stands for |
| --- | --- |
| `Interval` | `Interval1D` |
| `Interval.near` | `approx_eq` |
-/

namespace SketchLayout

structure Interval (α : Type) where
  min : α
  max : α
  deriving DecidableEq, Repr

namespace Interval

variable {α : Type} [Scalar α]

/-- The interval between two bounds, exchanged when the first is the greater. -/
def new (a b : α) : Interval α := if Scalar.lt b a then ⟨b, a⟩ else ⟨a, b⟩

def size (i : Interval α) : α := i.max - i.min

def center (i : Interval α) : α := Scalar.half (i.min + i.max)

def contains (i : Interval α) (v : α) : Bool := Scalar.le i.min v && Scalar.le v i.max

/-- Moves both bounds outwards. -/
def expand (i : Interval α) (amount : α) : Interval α := new (i.min - amount) (i.max + amount)

/-- Moves both bounds inwards. -/
def shrink (i : Interval α) (amount : α) : Interval α := i.expand (-amount)

def translate (i : Interval α) (offset : α) : Interval α := ⟨i.min + offset, i.max + offset⟩

/-- Whether both bounds are nearer to another interval's than the tolerance. -/
def near (i j : Interval α) (tolerance : α) : Bool :=
  Scalar.lt (Scalar.abs (i.min - j.min)) tolerance &&
    Scalar.lt (Scalar.abs (i.max - j.max)) tolerance

end Interval

end SketchLayout
