import Mathlib.Algebra.Order.Ring.Rat
import Mathlib.Data.Sign.Basic
import Mathlib.Tactic.Ring
import SketchLayout.Scalar

/-!
# Lengths on the extended line

Exact rationals with the two ends of the line, and with `undefined` for what has no place on it: the
lengths that doubles would be if they never rounded. A quotient by zero is an end of the line, where
the quotient of rationals is zero, so that layouts refuse it as they refuse it of doubles.
-/

namespace SketchLayout.Reach

/-- The sign of a place on the line; what is nowhere has none. -/
def sign : Reach → SignType
  | undefined => 0
  | below => -1
  | above => 1
  | finite q => SignType.sign q

/-- The end of the line on the side of a sign. -/
def farthest : SignType → Reach
  | .zero => undefined
  | .neg => below
  | .pos => above

def add : Reach → Reach → Reach
  | finite p, finite q => finite (p + q)
  | undefined, _ | _, undefined | above, below | below, above => undefined
  | above, _ | _, above => above
  | below, _ | _, below => below

def neg : Reach → Reach
  | undefined => undefined
  | below => above
  | above => below
  | finite q => finite (-q)

/-- An end of the line times zero is nowhere. -/
def mul : Reach → Reach → Reach
  | finite p, finite q => finite (p * q)
  | a, b => farthest (a.sign * b.sign)

/-- Zero counts as positive where something is divided by it, and zero by zero is nowhere. -/
def div : Reach → Reach → Reach
  | finite p, finite q => if q = 0 then farthest (SignType.sign p) else finite (p / q)
  | finite _, above | finite _, below => finite 0
  | above, finite q => if q < 0 then below else above
  | below, finite q => if q < 0 then above else below
  | _, _ => undefined

def lt : Reach → Reach → Bool
  | finite p, finite q => decide (p < q)
  | below, finite _ | below, above | finite _, above => true
  | _, _ => false

def le : Reach → Reach → Bool
  | finite p, finite q => decide (p ≤ q)
  | undefined, _ | _, undefined => false
  | below, _ | _, above => true
  | _, _ => false

instance : Scalar Reach where
  add := add
  sub a b := add a (neg b)
  mul := mul
  div := div
  neg := neg
  ofNat n := finite n
  lt := lt
  le := le
  reach := id

/-- A place on the line in another unit. -/
def scale (c : Rat) : Reach → Reach
  | finite q => finite (c * q)
  | a => a

section Scale

variable {c : Rat}

@[simp] theorem scale_finite (q : Rat) : (finite q).scale c = finite (c * q) := rfl

@[simp] theorem scale_undefined : undefined.scale c = undefined := rfl

@[simp] theorem scale_below : below.scale c = below := rfl

@[simp] theorem scale_above : above.scale c = above := rfl

@[simp] theorem scale_farthest (s : SignType) : (farthest s).scale c = farthest s := by cases s <;> rfl

theorem scale_add (a b : Reach) : (add a b).scale c = add (a.scale c) (b.scale c) := by
  cases a <;> cases b <;> simp [add, mul_add]

theorem scale_neg (a : Reach) : (neg a).scale c = neg (a.scale c) := by cases a <;> simp [neg]

theorem scale_mul_left (p : Rat) (a : Reach) : (mul (finite p) a).scale c = mul (finite p) (a.scale c) := by
  cases a with
  | finite q => simp [mul, mul_left_comm]
  | _ => simp [mul]

theorem scale_mul_right (a : Reach) (p : Rat) : (mul a (finite p)).scale c = mul (a.scale c) (finite p) := by
  cases a with
  | finite q => simp [mul, mul_assoc]
  | _ => simp [mul]

variable (hc : 0 < c)
include hc

theorem scale_div (a : Reach) (p : Rat) : (div a (finite p)).scale c = div (a.scale c) (finite p) := by
  cases a with
  | finite q =>
    by_cases hp : p = 0
    · simp [div, hp, sign_mul, sign_pos hc]
    · simp [div, hp, mul_div_assoc]
  | undefined => rfl
  | below => by_cases hp : p < 0 <;> simp [div, hp]
  | above => by_cases hp : p < 0 <;> simp [div, hp]

/-- How often one length goes into another does not depend on the unit. -/
theorem div_scale (a b : Reach) : div (a.scale c) (b.scale c) = div a b := by
  have hneg : ∀ q : Rat, c * q < 0 ↔ q < 0 := fun q => by simp [mul_neg_iff, hc, not_lt.mpr hc.le]
  cases a with
  | finite p =>
    cases b with
    | finite q =>
      by_cases hq : q = 0
      · simp [div, hq, sign_mul, sign_pos hc]
      · simp [div, hq, hc.ne', mul_div_mul_left]
    | _ => rfl
  | undefined => cases b <;> rfl
  | below => cases b <;> simp [div, hneg]
  | above => cases b <;> simp [div, hneg]

theorem lt_scale (a b : Reach) : lt (a.scale c) (b.scale c) = lt a b := by cases a <;> cases b <;> simp [lt, hc]

theorem le_scale (a b : Reach) : le (a.scale c) (b.scale c) = le a b := by cases a <;> cases b <;> simp [le, hc]

end Scale

section Offset

/-! ## Adding a rational -/

theorem add_comm (a b : Reach) : add a b = add b a := by
  cases a <;> cases b <;> simp [add, Rat.add_comm]

theorem add_assoc (a b c : Reach) : add (add a b) c = add a (add b c) := by
  cases a <;> cases b <;> cases c <;> simp [add, Rat.add_assoc]

theorem lt_add_finite (δ : Rat) (a b : Reach) : lt (add a (finite δ)) (add b (finite δ)) = lt a b := by
  cases a <;> cases b <;> simp [add, lt]

/-- What is apart stays as far apart. -/
theorem sub_add_finite (δ : Rat) (a b : Reach) :
    add (add a (finite δ)) (neg (add b (finite δ))) = add a (neg b) := by
  cases a with
  | finite p =>
    cases b with
    | finite q => exact congrArg finite (by ring)
    | _ => rfl
  | _ => cases b <;> rfl

theorem half_add_finite (δ : Rat) (a : Reach) :
    div (add a (finite (2 * δ))) (finite 2) = add (div a (finite 2)) (finite δ) := by
  have h2 : ¬ (2 : Rat) < 0 := by norm_num
  have h0 : (2 : Rat) ≠ 0 := by norm_num
  cases a with
  | undefined => rfl
  | below => simp only [add, div, h2, ↓reduceIte]
  | above => simp only [add, div, h2, ↓reduceIte]
  | finite p =>
    simp only [add, div, h0, ↓reduceIte, finite.injEq]
    ring

/-- The middle of two places is moved with them. -/
theorem middle_add_finite (δ : Rat) (a b : Reach) :
    div (add (add a (finite δ)) (add b (finite δ))) (finite 2) = add (div (add a b) (finite 2)) (finite δ) := by
  have hsum : add (add a (finite δ)) (add b (finite δ)) = add (add a b) (finite (2 * δ)) := by
    calc add (add a (finite δ)) (add b (finite δ))
        = add a (add (add (finite δ) b) (finite δ)) := by rw [add_assoc, add_assoc]
      _ = add (add a b) (add (finite δ) (finite δ)) := by rw [add_comm (finite δ) b, add_assoc, add_assoc]
      _ = add (add a b) (finite (2 * δ)) := by rw [two_mul]; rfl
  rw [hsum, half_add_finite]

end Offset

end SketchLayout.Reach
