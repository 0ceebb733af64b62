import Mathlib.Data.Rat.Floor
import Mathlib.Tactic.FieldSimp
import Mathlib.Tactic.Linarith
import SketchLayout.Proofs.Run

/-!
# Places of tiles, exactly

Over the rationals the positions of an axis have one formula for every count and either anchor:
the `k`-th of `n` tiles begins at `Interval.tileStart`, and its position stands `Anchor.offset` above
that (`positions_eq`). A single tile stands in the middle of the extent; more tiles reach from one
end to the other in equal steps.
-/

namespace SketchLayout

/-! ## Lengths as rationals -/

@[simp] theorem zero_rat : (Scalar.zero : Rat) = 0 := Nat.cast_zero

@[simp] theorem half_rat (a : Rat) : Scalar.half a = a / 2 := by
  show a / ((2 : Nat) : Rat) = a / 2
  norm_num

@[simp] theorem le_rat (a b : Rat) : Scalar.le a b = decide (a ≤ b) := rfl

@[simp] theorem lt_rat (a b : Rat) : Scalar.lt a b = decide (a < b) := rfl

namespace Interval

theorem size_rat (i : Interval Rat) : i.size = i.max - i.min := rfl

theorem center_rat (i : Interval Rat) : i.center = (i.min + i.max) / 2 := half_rat _

theorem new_of_le {a b : Rat} (h : a ≤ b) : Interval.new a b = ⟨a, b⟩ := by
  have hba : ¬ b < a := not_lt.2 h
  simp [Interval.new, hba]

theorem contains_rat {i : Interval Rat} {v : Rat} : i.contains v ↔ i.min ≤ v ∧ v ≤ i.max := by
  simp [contains]

theorem new_ordered (a b : Rat) : (Interval.new a b).min ≤ (Interval.new a b).max := by
  unfold Interval.new
  split
  · rename_i h; exact le_of_lt (by simpa using h)
  · rename_i h; simpa using h

end Interval

/-- A resolved interval has its bounds in order, whatever the signs of the dimension. -/
theorem Dimension.resolve_ordered (d : Dimension Rat) (centered : Bool) :
    (d.resolve centered).min ≤ (d.resolve centered).max := by
  unfold resolve
  split
  · exact Interval.new_ordered _ _
  · split <;> exact Interval.new_ordered _ _

/-! ## One formula for the places -/

/-- Where the `k`-th of `n` tiles begins. -/
def Interval.tileStart (e : Interval Rat) (tile : Rat) (n k : Nat) : Rat :=
  if n = 1 then (e.min + e.max) / 2 - tile / 2 else e.min + k * ((e.max - e.min - tile) / ((n : Rat) - 1))

namespace Interval
variable (e : Interval Rat) (tile : Rat)

theorem tileStart_one (k : Nat) : e.tileStart tile 1 k = (e.min + e.max) / 2 - tile / 2 := by
  simp [tileStart]

theorem tileStart_zero {n : Nat} (hn : n ≠ 1) : e.tileStart tile n 0 = e.min := by
  simp [tileStart, hn]

theorem tileStart_succ {n : Nat} (hn : n ≠ 1) (k : Nat) :
    e.tileStart tile n (k + 1) = e.tileStart tile n k + (e.max - e.min - tile) / ((n : Rat) - 1) := by
  rw [tileStart, tileStart, if_neg hn, if_neg hn]
  push_cast; ring

theorem tileStart_last {n : Nat} (hn : 1 < n) : e.tileStart tile n (n - 1) + tile = e.max := by
  have hgaps : (n : Rat) - 1 ≠ 0 := by
    have : (1 : Rat) < n := by exact_mod_cast hn
    linarith
  rw [tileStart, if_neg (by omega), Nat.cast_sub (by omega), Nat.cast_one, mul_div_cancel₀ _ hgaps]
  ring

end Interval

/-- How far above the beginning of a tile the place lies that an anchor reports. -/
def Anchor.offset (anchor : Anchor) (tile : Rat) : Rat :=
  match anchor with
  | .center => tile / 2
  | .origin => 0

theorem positions_eq (d : DistributeAxis Rat) (anchor : Anchor) (e : Interval Rat) :
    ∀ n : Nat, d.positions anchor e n =
      (List.range n).map fun k => e.tileStart d.tileSize n k + anchor.offset d.tileSize
  | 0 => rfl
  | 1 => by
    have hp : d.positions anchor e 1 = [(e.min + e.max) / 2 +
        match anchor with | .center => 0 | .origin => -d.tileSize / 2] := by
      cases anchor <;> simp [DistributeAxis.positions, Interval.center_rat]
    rw [hp]
    cases anchor
    · simp [Interval.tileStart, Anchor.offset]
    · simp [Interval.tileStart, Anchor.offset]; ring
  | n + 2 => by
    have hn : ((n + 2 : Nat) : Rat) - 1 = ((n + 1 : Nat) : Rat) := by push_cast; ring
    have hp : d.positions anchor e (n + 2) = (List.range (n + 2)).map fun k : Nat =>
        e.min + (k : Rat) * ((e.max - e.min - d.tileSize) / ((n + 1 : Nat) : Rat)) + anchor.offset d.tileSize := by
      cases anchor
      · simp only [DistributeAxis.positions, half_rat]; rfl
      · simp only [DistributeAxis.positions, zero_rat]; rfl
    rw [hp]
    apply List.map_congr_left
    intro k _
    rw [Interval.tileStart, if_neg (by omega), hn]

theorem getElem?_positions (d : DistributeAxis Rat) (anchor : Anchor) (e : Interval Rat) {n k : Nat}
    (hk : k < n) :
    (d.positions anchor e n)[k]? = some (e.tileStart d.tileSize n k + anchor.offset d.tileSize) := by
  simp [positions_eq, hk]

end SketchLayout
