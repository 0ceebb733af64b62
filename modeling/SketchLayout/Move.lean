import SketchLayout.Interval

/-!
# `expand`, `shrink`, `translate`

What can be done to an interval, a rectangle or a box: grow it or shrink it along every axis or
along one, or move it. `Move.along` is the part of a move that one axis sees; a rectangle or a box
takes a move axis by axis. So `expand_x` of `Interval2D` and of `Interval3D` is one move, taken by
either.
-/

namespace SketchLayout

/-- One change of an interval, a rectangle or a box. -/
inductive Move (α : Type) where
  /-- outwards along one axis, or along every axis -/
  | expand (only : Option Axis) (amount : α)
  /-- inwards along one axis, or along every axis -/
  | shrink (only : Option Axis) (amount : α)
  /-- by an offset per axis -/
  | translate (x y z : α)
  deriving DecidableEq, Repr

/-- Whether a change meant for one axis, or for all, is meant for this one. -/
def Axis.within (a : Axis) (only : Option Axis) : Bool :=
  match only with
  | none => true
  | some b => a == b

namespace Move

variable {α : Type} [Scalar α]

/-- What a move does along an axis. -/
def along (move : Move α) (a : Axis) (i : Interval α) : Interval α :=
  match move with
  | .expand only amount => if a.within only then i.expand amount else i
  | .shrink only amount => if a.within only then i.shrink amount else i
  | .translate x y z =>
    match a with
    | .x => i.translate x
    | .y => i.translate y
    | .z => i.translate z

end Move

/-- An interval alone lies on the X axis. -/
def Interval.apply {α : Type} [Scalar α] (i : Interval α) (move : Move α) : Interval α :=
  move.along .x i

end SketchLayout
