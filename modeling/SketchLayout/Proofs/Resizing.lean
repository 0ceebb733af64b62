import Mathlib.Algebra.Order.Group.Abs
import SketchLayout.Proofs.Moves

/-!
# Growing, shrinking and moving

Growing by an amount, which may be negative, adds twice that amount to the size. While the sum is not
negative the bounds just move (`Interval.expand_of_nonneg`), so growing can be undone and two amounts add up.
Below zero the interval turns over: its size is then the absolute value of the sum, and shrinking by the same
amount does not lead back, since it makes the turned interval longer than it was at first
(`Interval.shrink_expand_iff`).

A rectangle and a box are made of one interval per axis. `Frame` says so once, and all that holds of the
intervals holds of such a shape side by side (`Frame.resizes`).
-/

namespace SketchLayout

/-! ## Intervals -/

namespace Interval

variable {i : Interval Rat} {a : Rat}

/-- However the bounds are given, the size is their distance. -/
theorem size_new (a b : Rat) : (Interval.new a b).size = |b - a| := by
  rw [size_rat]
  unfold Interval.new
  split
  · rename_i h
    have hlt : b < a := by simpa using h
    rw [abs_of_neg (sub_neg.2 hlt), neg_sub]
  · rename_i h
    have hle : a ≤ b := by simpa using h
    rw [abs_of_nonneg (sub_nonneg.2 hle)]

/-- **Growing adds twice the amount to the size**, which is the distance from zero if that is negative. -/
theorem size_expand (i : Interval Rat) (a : Rat) : (i.expand a).size = |i.size + 2 * a| := by
  have hsum : i.max + a - (i.min - a) = i.size + 2 * a := by
    rw [size_rat]
    ring
  rw [expand, size_new, hsum]

/-- As long as the interval does not turn over, its bounds move apart by the amount. -/
theorem expand_of_nonneg (h : 0 ≤ i.size + 2 * a) : i.expand a = ⟨i.min - a, i.max + a⟩ := by
  rw [size_rat] at h
  exact new_of_le (by linarith)

theorem expand_expand (h : 0 ≤ i.size + 2 * a) (b : Rat) : (i.expand a).expand b = i.expand (a + b) := by
  have hmin : i.min - a - b = i.min - (a + b) := by ring
  have hmax : i.max + a + b = i.max + (a + b) := by ring
  rw [expand_of_nonneg h, expand, expand, hmin, hmax]

theorem expand_zero (hi : i.min ≤ i.max) : i.expand 0 = i := by
  have hmin : i.min - 0 = i.min := sub_zero _
  have hmax : i.max + 0 = i.max := add_zero _
  rw [expand, hmin, hmax, new_of_le hi]

/-- **Growing is undone by shrinking just as long as the interval does not turn over.** -/
theorem shrink_expand_iff (hi : i.min ≤ i.max) : (i.expand a).shrink a = i ↔ 0 ≤ i.size + 2 * a := by
  constructor
  · intro h
    by_contra hneg
    have hsize : 0 ≤ i.size := by
      rw [size_rat]
      linarith
    -- a turned interval is shrunk by a negative amount, and so gets longer than the one at first
    have hback : |(|i.size + 2 * a| + 2 * -a)| = i.size := by
      rw [← size_expand, ← size_expand]
      exact congrArg size h
    rw [abs_of_neg (by linarith : i.size + 2 * a < 0)] at hback
    have hle := le_abs_self (-(i.size + 2 * a) + 2 * -a)
    linarith
  · intro h
    rw [shrink, expand_expand h, add_neg_cancel, expand_zero hi]

/-- What lies in an interval lies in it when it has grown. -/
theorem contains_expand (ha : 0 ≤ a) {v : Rat} (h : i.contains v) : (i.expand a).contains v := by
  obtain ⟨hmin, hmax⟩ := contains_rat.1 h
  have hroom : 0 ≤ i.size + 2 * a := by
    rw [size_rat]
    linarith
  rw [expand_of_nonneg hroom]
  exact contains_rat.2 ⟨by linarith, by linarith⟩

/-- What lies in an interval moves along with it. -/
theorem contains_translate (i : Interval Rat) (v d : Rat) : (i.translate d).contains (v + d) ↔ i.contains v := by
  rw [contains_rat, contains_rat]
  exact and_congr (add_le_add_iff_right d) (add_le_add_iff_right d)

end Interval

/-! ## Along one axis -/

namespace Move

variable {axis : Axis} {only : Option Axis} {a b : Rat} {i : Interval Rat}

theorem along_expand (axis : Axis) (only : Option Axis) (a : Rat) (i : Interval Rat) :
    (expand only a).along axis i = if axis.within only then i.expand a else i := rfl

theorem along_shrink (axis : Axis) (only : Option Axis) (a : Rat) (i : Interval Rat) :
    (shrink only a).along axis i = (expand only (-a)).along axis i := rfl

theorem along_translate (axis : Axis) (x y z : Rat) (i : Interval Rat) :
    (translate x y z).along axis i = i.translate ((translate x y z).offset axis) := by
  cases axis <;> rfl

theorem size_along_expand (axis : Axis) (only : Option Axis) (a : Rat) (i : Interval Rat) :
    ((expand only a).along axis i).size = if axis.within only then |i.size + 2 * a| else i.size := by
  rw [along_expand]
  split
  · exact i.size_expand a
  · rfl

theorem along_shrink_expand_iff (hi : i.min ≤ i.max) :
    (shrink only a).along axis ((expand only a).along axis i) = i ↔ (axis.within only → 0 ≤ i.size + 2 * a) := by
  rw [along_shrink, along_expand, along_expand]
  split
  · rename_i hwithin
    rw [forall_prop_of_true hwithin]
    exact Interval.shrink_expand_iff hi
  · rename_i hwithin
    exact iff_of_true rfl fun h => absurd h hwithin

theorem along_expand_expand (h : axis.within only → 0 ≤ i.size + 2 * a) :
    (expand only b).along axis ((expand only a).along axis i) = (expand only (a + b)).along axis i := by
  rw [along_expand, along_expand, along_expand]
  split
  · rename_i hwithin
    exact Interval.expand_expand (h hwithin) b
  · rfl

theorem contains_along_expand (ha : 0 ≤ a) {v : Rat} (h : i.contains v) :
    ((expand only a).along axis i).contains v := by
  rw [along_expand]
  split
  · exact Interval.contains_expand ha h
  · exact h

theorem contains_along_translate (axis : Axis) (x y z v : Rat) (i : Interval Rat) :
    ((translate x y z).along axis i).contains (v + (translate x y z).offset axis) ↔ i.contains v := by
  rw [along_translate]
  exact i.contains_translate v _

end Move

/-! ## Shapes with a side for each axis -/

/-- A kind of shape made of one interval for each of its axes: a move changes it side by side, and a point is
in it when each coordinate is in its side. -/
structure Frame (α Shape Place : Type) [Scalar α] where
  /-- the intervals, each with its axis -/
  sides : Shape → List (Axis × Interval α)
  apply : Shape → Move α → Shape
  contains : Shape → Place → Bool
  coordinate : Place → Axis → α
  /-- a point moved by an offset per axis -/
  shift : Place → α → α → α → Place
  sides_inj : ∀ {s t}, sides s = sides t → s = t
  sides_apply : ∀ s move, sides (apply s move) = (sides s).map fun side => (side.1, move.along side.1 side.2)
  contains_iff : ∀ s p, contains s p = true ↔ ∀ side ∈ sides s, side.2.contains (coordinate p side.1) = true
  coordinate_shift : ∀ s p x y z, ∀ side ∈ sides s,
    coordinate (shift p x y z) side.1 = coordinate p side.1 + (Move.translate x y z).offset side.1

namespace Frame

variable {Shape Place : Type}

/-- Whether growing by an amount, along one axis or along all, turns no side over. -/
def Roomy (F : Frame Rat Shape Place) (s : Shape) (only : Option Axis) (a : Rat) : Prop :=
  ∀ side ∈ F.sides s, side.1.within only → 0 ≤ side.2.size + 2 * a

/-- How a shape takes growing, shrinking and moving, along one axis or along all. -/
structure Resizes (F : Frame Rat Shape Place) (s : Shape) : Prop where
  /-- twice the amount is added to the size of the sides that grow, and the others stay as they are -/
  size_expand : ∀ only a,
    (F.sides (F.apply s (.expand only a))).map (fun side => (side.1, side.2.size)) =
      (F.sides s).map fun side => (side.1, if side.1.within only then |side.2.size + 2 * a| else side.2.size)
  shrink_eq : ∀ only a, F.apply s (.shrink only a) = F.apply s (.expand only (-a))
  shrink_expand : ∀ only a, F.apply (F.apply s (.expand only a)) (.shrink only a) = s ↔ F.Roomy s only a
  expand_expand : ∀ only a b, F.Roomy s only a →
    F.apply (F.apply s (.expand only a)) (.expand only b) = F.apply s (.expand only (a + b))
  contains_expand : ∀ only a p, 0 ≤ a → F.contains s p → F.contains (F.apply s (.expand only a)) p
  contains_translate : ∀ p x y z, F.contains (F.apply s (.translate x y z)) (F.shift p x y z) ↔ F.contains s p

variable {F : Frame Rat Shape Place} {s : Shape}

/-- Two moves lead back to a shape just if they lead back to each of its sides. -/
theorem apply_apply_eq_iff (F : Frame Rat Shape Place) (s : Shape) (first second : Move Rat) :
    F.apply (F.apply s first) second = s ↔
      ∀ side ∈ F.sides s, second.along side.1 (first.along side.1 side.2) = side.2 := by
  have hsides : F.sides (F.apply (F.apply s first) second) =
      (F.sides s).map fun side => (side.1, second.along side.1 (first.along side.1 side.2)) := by
    rw [F.sides_apply, F.sides_apply, List.map_map]
    rfl
  have hself : F.sides s = (F.sides s).map id := (List.map_id _).symm
  calc F.apply (F.apply s first) second = s
      ↔ F.sides (F.apply (F.apply s first) second) = F.sides s := ⟨congrArg F.sides, F.sides_inj⟩
    _ ↔ ∀ side ∈ F.sides s, (side.1, second.along side.1 (first.along side.1 side.2)) = id side := by
      rw [hsides]
      exact (Eq.congr_right hself).trans List.map_inj_left
    _ ↔ _ := forall₂_congr fun side _ => by rw [Prod.ext_iff]; exact and_iff_right rfl

/-- **What holds of intervals holds of shapes side by side.** -/
theorem resizes (h : ∀ side ∈ F.sides s, side.2.min ≤ side.2.max) : F.Resizes s where
  size_expand only a := by
    rw [F.sides_apply, List.map_map]
    exact List.map_congr_left fun side _ => Prod.ext rfl (Move.size_along_expand side.1 only a side.2)
  shrink_eq only a := by
    apply F.sides_inj
    rw [F.sides_apply, F.sides_apply]
    exact List.map_congr_left fun side _ => Prod.ext rfl (Move.along_shrink side.1 only a side.2)
  shrink_expand only a := by
    rw [apply_apply_eq_iff]
    exact forall₂_congr fun side hside => Move.along_shrink_expand_iff (h side hside)
  expand_expand only a b hroom := by
    apply F.sides_inj
    rw [F.sides_apply, F.sides_apply, F.sides_apply, List.map_map]
    exact List.map_congr_left fun side hside => Prod.ext rfl (Move.along_expand_expand (hroom side hside))
  contains_expand only a p ha hp := by
    rw [F.contains_iff] at hp ⊢
    rw [F.sides_apply, List.forall_mem_map]
    exact fun side hside => Move.contains_along_expand ha (hp side hside)
  contains_translate p x y z := by
    rw [F.contains_iff, F.contains_iff, F.sides_apply, List.forall_mem_map]
    refine forall₂_congr fun side hside => ?_
    rw [F.coordinate_shift s p x y z side hside]
    exact Move.contains_along_translate side.1 x y z _ side.2

end Frame

section

variable {α : Type} [Scalar α]

/-- The coordinate of a point along an axis. The sketch plane lies at height zero. -/
def Point.coordinate (p : Point α) : Axis → α
  | .x => p.x
  | .y => p.y
  | .z => Scalar.zero

def SpacePoint.coordinate (p : SpacePoint α) : Axis → α
  | .x => p.x
  | .y => p.y
  | .z => p.z

/-- Rectangles, with their sides along X and Y. -/
def Rect.frame : Frame α (Rect α) (Point α) where
  sides r := [(.x, r.x), (.y, r.y)]
  apply := Rect.apply
  contains := Rect.contains
  coordinate := Point.coordinate
  shift p x y _ := ⟨p.x + x, p.y + y⟩
  sides_inj := by
    rintro ⟨x, y⟩ ⟨x', y'⟩ h
    simpa using h
  sides_apply _ _ := rfl
  contains_iff r p := by simp [Rect.contains, Point.coordinate]
  coordinate_shift r p x y z := by simp [Point.coordinate, Move.offset]

/-- Boxes, with their sides along all three axes. -/
def Box.frame : Frame α (Box α) (SpacePoint α) where
  sides b := [(.x, b.x), (.y, b.y), (.z, b.z)]
  apply := Box.apply
  contains := Box.contains
  coordinate := SpacePoint.coordinate
  shift p x y z := ⟨p.x + x, p.y + y, p.z + z⟩
  sides_inj := by
    rintro ⟨x, y, z⟩ ⟨x', y', z'⟩ h
    simpa using h
  sides_apply _ _ := rfl
  contains_iff b p := by simp [Box.contains, SpacePoint.coordinate, and_assoc]
  coordinate_shift b p x y z := by simp [SpacePoint.coordinate, Move.offset]

end

/-- **Growing, shrinking and moving.** Intervals have their bounds in order, whatever they came from and however
they were moved (`Interval.Built.after`). One that grows by an amount has the size plus twice the amount, or its
absolute value when it turns over. Just as long as it does not turn over, shrinking by the same amount leads
back, and a second amount adds up with the first. Growing outwards loses no point, and moving carries the points
along. Rectangles and boxes do so side by side. -/
theorem intervals_and_shapes_resize :
    (∀ i : Interval Rat, i.min ≤ i.max → ∀ a b : Rat,
      (i.expand a).size = |i.size + 2 * a| ∧
      ((i.expand a).shrink a = i ↔ 0 ≤ i.size + 2 * a) ∧
      (0 ≤ i.size + 2 * a → (i.expand a).expand b = i.expand (a + b)) ∧
      (∀ v, 0 ≤ a → i.contains v → (i.expand a).contains v) ∧
      ∀ v d, i.contains v ↔ (i.translate d).contains (v + d)) ∧
    (∀ r : Rect Rat, r.x.min ≤ r.x.max → r.y.min ≤ r.y.max → Rect.frame.Resizes r) ∧
    ∀ b : Box Rat, b.x.min ≤ b.x.max → b.y.min ≤ b.y.max → b.z.min ≤ b.z.max → Box.frame.Resizes b := by
  refine ⟨fun i hi a b => ?_, fun r hx hy => ?_, fun b hx hy hz => ?_⟩
  · exact ⟨i.size_expand a, Interval.shrink_expand_iff hi, fun h => Interval.expand_expand h b,
      fun v ha hv => Interval.contains_expand ha hv, fun v d => (i.contains_translate v d).symm⟩
  · apply Frame.resizes
    simp only [Rect.frame, List.forall_mem_cons]
    exact ⟨hx, hy, by simp⟩
  · apply Frame.resizes
    simp only [Box.frame, List.forall_mem_cons]
    exact ⟨hx, hy, hz, by simp⟩

/-- A box without height, which shrinking turns over along Z first and then along X. -/
def flatBox : Box Rat := ⟨⟨0, 2⟩, ⟨1, 4⟩, ⟨-1, -1⟩⟩

theorem heightless_box_resizes :
    (flatBox.x.min ≤ flatBox.x.max ∧ flatBox.y.min ≤ flatBox.y.max ∧ flatBox.z.min ≤ flatBox.z.max) ∧
      ((flatBox.x.expand (-3)).size = 4 ∧ (flatBox.x.expand (-3)).shrink (-3) ≠ flatBox.x) ∧
      (flatBox.xy.apply (.expand none (-1))).apply (.shrink none (-1)) = flatBox.xy ∧
      (flatBox.apply (.expand none (-1))).apply (.shrink none (-1)) ≠ flatBox := by
  have hx : flatBox.x.min ≤ flatBox.x.max := by decide +kernel
  have hy : flatBox.y.min ≤ flatBox.y.max := by decide +kernel
  have hz : flatBox.z.min ≤ flatBox.z.max := by decide +kernel
  obtain ⟨hintervals, hrects, hboxes⟩ := intervals_and_shapes_resize
  obtain ⟨hsize, hback, -⟩ := hintervals flatBox.x hx (-3) 0
  refine ⟨⟨hx, hy, hz⟩, ⟨hsize.trans (by decide +kernel), fun h => ?_⟩, ?_, fun h => ?_⟩
  · exact absurd (hback.1 h) (by decide +kernel)
  · refine ((hrects flatBox.xy hx hy).shrink_expand none (-1)).2 ?_
    simp only [Frame.Roomy, Rect.frame, List.forall_mem_cons]
    exact ⟨fun _ => by decide +kernel, fun _ => by decide +kernel, by simp⟩
  · -- there is no room along Z
    have hroom := ((hboxes flatBox hx hy hz).shrink_expand none (-1)).1 h
    exact absurd (hroom (.z, flatBox.z) (by decide) rfl) (by decide +kernel)

end SketchLayout
