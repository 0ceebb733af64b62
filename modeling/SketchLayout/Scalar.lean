import SketchLayout.Axis

/-!
# Lengths

Layouts are computed over a type of lengths that is left open: the running program uses doubles,
a proof may take exact rationals. `Scalar` lists the operations a layout needs and promises no law
about them, so what is proved for every `Scalar` holds of doubles to the last bit.

Counting is the one place where a length becomes a whole number. `Reach` says how far a length
goes on the extended line, and the number of whole units in it is read off there: `fitting` is
`count_from` of the floor, and `covering` is `count_from` of the ceiling, both before the limit is
looked at (`inferredCount`).
-/

namespace SketchLayout

/-- Where a length lies: nowhere, at either end of the line, or at an exact rational. -/
inductive Reach where
  | undefined
  | below
  | above
  | finite (value : Rat)
  deriving DecidableEq, Repr

namespace Reach

/-- How many whole units fit: `none` when no number is enough, and zero when none fits or the
length is no length at all. -/
def fitting : Reach → Option Nat
  | undefined | below => some 0
  | above => none
  | finite q => some q.floor.toNat

/-- How many whole units cover the length, with the same conventions. -/
def covering : Reach → Option Nat
  | undefined | below => some 0
  | above => none
  | finite q => some q.ceil.toNat

end Reach

/-- The operations on lengths that layouts are computed with. -/
class Scalar (α : Type) extends Add α, Sub α, Mul α, Div α, Neg α where
  /-- A whole number of units. -/
  ofNat : Nat → α
  /-- Strictly shorter. -/
  lt : α → α → Bool
  /-- Not longer. -/
  le : α → α → Bool
  /-- The place on the extended line. -/
  reach : α → Reach

namespace Scalar

variable {α : Type} [Scalar α]

def zero : α := ofNat 0

def half (a : α) : α := a / ofNat 2

/-- The distance of a length from zero. -/
def abs (a : α) : α := if lt a zero then -a else a

end Scalar

/-- Exact rationals are lengths, and every one of them is finite. -/
instance : Scalar Rat where
  ofNat n := (n : Rat)
  lt a b := decide (a < b)
  le a b := decide (a ≤ b)
  reach := .finite

end SketchLayout
