import SketchLayout.Proofs.GridLines

/-!
# Two spellings of a grid

A grid axis given by its size from the first point to the last can be given by a spacing as well: the size
divided by the gaps (`GridAxis.spaced`). The two come to their step by different ways. A size is resolved to an
interval, whose bounds are in order whatever the sign; a spacing goes its own way, from zero or from the far end
around it. So a size that is not negative comes to the very step of its spacing (`GridAxis.step_spaced`), while
below zero the two count the axis from opposite ends (`GridAxis.step_spaced_of_neg`).

A grid spelled the other way therefore has the same points, and in the same order unless the size is negative
(`sizes_spelled_as_spacings`).
-/

namespace SketchLayout

/-! ## The same line from its other end -/

/-- The step of the same points, counted from the last of `n` on. -/
def Step.backwards (s : Step Rat) (n : Nat) : Step Rat := ⟨-s.step, s.place (n - 1)⟩

theorem Step.place_backwards (s : Step Rat) {n k : Nat} (hk : k < n) :
    (s.backwards n).place k = s.place (n - 1 - k) := by
  have hle : k ≤ n - 1 := by omega
  rw [place_rat, place_rat, backwards, place_rat, Nat.cast_sub hle]
  ring

theorem Step.coordinates_backwards (s : Step Rat) (n : Nat) :
    (s.backwards n).coordinates n = (s.coordinates n).reverse := by
  refine List.ext_getElem? fun k => ?_
  by_cases hk : k < n
  · have hmirror : n - 1 - k < n := by omega
    rw [getElem?_coordinates _ hk, place_backwards s hk, List.getElem?_reverse (by simpa using hk),
      length_coordinates, getElem?_coordinates s hmirror]
  · have hge : n ≤ k := by omega
    rw [List.getElem?_eq_none (by simpa using hge), List.getElem?_eq_none (by simpa using hge)]

/-- Counted from its last point, an interval that is divided evenly goes down from its end. -/
theorem Step.backwards_of_interval (i : Interval Rat) {n : Nat} (hmany : 1 < n) :
    (Step.mk (i.size / Scalar.ofNat (n - 1)) i.min).backwards n = ⟨-(i.size / Scalar.ofNat (n - 1)), i.max⟩ := by
  rw [backwards, place_last i (by omega)]

/-- Pairs of the same entries are the same pairs, in some order. -/
theorem perm_pairs {β γ δ : Type} (f : β → γ → δ) {xs xs' : List β} {ys ys' : List γ} (hx : xs'.Perm xs)
    (hy : ys'.Perm ys) : (pairs f xs' ys').Perm (pairs f xs ys) :=
  hx.flatMap fun x _ => hy.map (f x)

/-! ## One axis -/

/-- A size that is not negative is the length of its interval, which begins at zero or half the size below. -/
theorem Dimension.resolve_size_of_nonneg {s : Rat} (hs : 0 ≤ s) (centered : Bool) :
    ((Dimension.size s).resolve centered).size = s ∧
      ((Dimension.size s).resolve centered).min = if centered then -s / 2 else 0 := by
  cases centered with
  | true =>
    have hnew : (Dimension.size s).resolve true = ⟨-s / 2, s / 2⟩ := by
      show Interval.new (Scalar.half (-s)) (Scalar.half s) = _
      rw [half_rat, half_rat, Interval.new_of_le (by linarith)]
    rw [hnew, Interval.size_rat]
    exact ⟨by ring, rfl⟩
  | false =>
    have hnew : (Dimension.size s).resolve false = ⟨0, s⟩ := by
      show Interval.new Scalar.zero s = _
      rw [zero_rat, Interval.new_of_le hs]
    rw [hnew, Interval.size_rat]
    exact ⟨sub_zero s, rfl⟩

/-- A negative size is turned over: its interval ends where that of a positive one begins. -/
theorem Dimension.resolve_size_of_neg {s : Rat} (hs : s < 0) (centered : Bool) :
    ((Dimension.size s).resolve centered).size = -s ∧
      ((Dimension.size s).resolve centered).max = if centered then -s / 2 else 0 := by
  cases centered with
  | true =>
    have hnew : (Dimension.size s).resolve true = ⟨s / 2, -s / 2⟩ := by
      have hlt : s / 2 < -s / 2 := by linarith
      show Interval.new (Scalar.half (-s)) (Scalar.half s) = _
      simp [Interval.new, hlt]
    rw [hnew, Interval.size_rat]
    exact ⟨by ring, rfl⟩
  | false =>
    have hnew : (Dimension.size s).resolve false = ⟨s, 0⟩ := by
      show Interval.new Scalar.zero s = _
      simp [Interval.new, hs]
    rw [hnew, Interval.size_rat]
    exact ⟨zero_sub s, rfl⟩

namespace GridAxis

/-- The axis given by the spacing that a size comes to. -/
def spaced (g : GridAxis Rat) (s : Rat) : GridAxis Rat :=
  { g with spacing := some (s / ((g.count : Rat) - 1)), size := none }

variable {g : GridAxis Rat} {s : Rat} {a : Axis} {centered : Bool} {st : Step Rat}

/-- The step from the spacing that a size comes to: around zero it begins half the size away. -/
theorem step_of_spacing (hmany : 1 < g.count) :
    (g.spaced s).step a centered = .ok ⟨s / Scalar.ofNat (g.count - 1), if centered then -s / 2 else 0⟩ := by
  have hgaps : (g.count : Rat) - 1 = Scalar.ofNat (g.count - 1) := (Nat.cast_pred (by omega)).symm
  have hne : (Scalar.ofNat (g.count - 1) : Rat) ≠ 0 := Nat.cast_ne_zero.2 (by omega)
  have hback : -(s / Scalar.ofNat (g.count - 1)) * (Scalar.ofNat (g.count - 1) : Rat) = -s := by
    rw [neg_mul, div_mul_cancel₀ s hne]
  simp only [step, spaced, if_neg (show ¬ g.count = 1 by omega), hgaps, hback, half_rat, zero_rat]

/-- The step from the size itself: its interval divided by the gaps, from the beginning. -/
theorem step_of_size (hmany : 1 < g.count) (hsize : g.size = some (.size s)) (h : g.step a centered = .ok st) :
    st = ⟨((Dimension.size s).resolve centered).size / Scalar.ofNat (g.count - 1),
      ((Dimension.size s).resolve centered).min⟩ := by
  cases steps_of_ok (by omega) h with
  | single hone => omega
  | spaced _ _ hnone => cases hnone.symm.trans hsize
  | sized _ _ hsome =>
    cases hsome.symm.trans hsize
    rfl

/-- A size that is not negative and the spacing it comes to give the same step. -/
theorem step_spaced (hmany : 1 < g.count) (hsize : g.size = some (.size s)) (h : g.step a centered = .ok st)
    (hs : 0 ≤ s) : (g.spaced s).step a centered = .ok st := by
  obtain ⟨hlength, hmin⟩ := Dimension.resolve_size_of_nonneg hs centered
  rw [step_of_spacing hmany, step_of_size hmany hsize h, hlength, hmin]

/-- A negative size and its spacing begin at opposite ends. -/
theorem step_spaced_of_neg (hmany : 1 < g.count) (hsize : g.size = some (.size s)) (h : g.step a centered = .ok st)
    (hs : s < 0) : (g.spaced s).step a centered = .ok (st.backwards g.count) := by
  obtain ⟨hlength, hmax⟩ := Dimension.resolve_size_of_neg hs centered
  have hturned : -(-s / (Scalar.ofNat (g.count - 1) : Rat)) = s / Scalar.ofNat (g.count - 1) := by
    rw [neg_div, neg_neg]
  rw [step_of_spacing hmany, step_of_size hmany hsize h, Step.backwards_of_interval _ hmany, hlength, hmax, hturned]

/-- The places along an axis that is spelled the other way. -/
theorem exists_step_spaced (hmany : 1 < g.count) (hsize : g.size = some (.size s))
    (h : g.step a centered = .ok st) :
    ∃ st', (g.spaced s).step a centered = .ok st' ∧ (st'.coordinates g.count).Perm (st.coordinates g.count) ∧
      (0 ≤ s → st' = st) := by
  rcases lt_or_ge s 0 with hs | hs
  · refine ⟨_, step_spaced_of_neg hmany hsize h hs, ?_, fun hs' => absurd hs hs'.not_gt⟩
    rw [Step.coordinates_backwards]
    exact List.reverse_perm _
  · exact ⟨st, step_spaced hmany hsize h hs, .refl _, fun _ => rfl⟩

end GridAxis

/-! ## Two axes -/

/-- Whether a grid has these points in some order, and in this order unless the size `s` is negative. -/
def Grid.Respells (g : Grid Rat) (s : Rat) (points : List (Point Rat)) : Prop :=
  ∃ points', g.points = .ok points' ∧ points'.Perm points ∧ (0 ≤ s → points' = points)

/-- **Size and spacing are two spellings of the same grid.** Whenever points come out, either axis that has
more than one point and a plain size may be given by the spacing this comes to: the same points come out, and
in the same order unless the size is negative. -/
theorem sizes_spelled_as_spacings (g : Grid Rat) (points : List (Point Rat)) (h : g.points = .ok points) :
    (∀ s, 1 < g.x.count → g.x.size = some (.size s) → Grid.Respells { g with x := g.x.spaced s } s points) ∧
      ∀ s, 1 < g.y.count → g.y.size = some (.size s) → Grid.Respells { g with y := g.y.spaced s } s points := by
  obtain ⟨hpos, hle, htotal, flags, sx, sy, hflags, hsx, hsy, rfl⟩ := Grid.points_eq_ok.1 h
  constructor
  · intro s hmany hsize
    obtain ⟨sx', hsx', hperm, hsame⟩ := GridAxis.exists_step_spaced hmany hsize hsx
    refine ⟨_, Grid.points_eq_ok.2 ⟨hpos, hle, htotal, flags, sx', sy, hflags, hsx', hsy, rfl⟩,
      perm_pairs _ hperm (.refl _), fun hs => ?_⟩
    rw [hsame hs]
    rfl
  · intro s hmany hsize
    obtain ⟨sy', hsy', hperm, hsame⟩ := GridAxis.exists_step_spaced hmany hsize hsy
    refine ⟨_, Grid.points_eq_ok.2 ⟨hpos, hle, htotal, flags, sx, sy', hflags, hsx, hsy', rfl⟩,
      perm_pairs _ (.refl _) hperm, fun hs => ?_⟩
    rw [hsame hs]
    rfl

/-- Three columns to the left of zero by four rows around it: the columns are given by a negative size. -/
def leftwardGrid : Grid Rat where
  x := { count := 3, size := some (.size (-4)) }
  y := { count := 4, size := some (.size 6) }
  center := .axes "y"

theorem leftward_grid_respelled :
    ∃ points, leftwardGrid.points = .ok points ∧
      (1 < leftwardGrid.x.count ∧ leftwardGrid.x.size = some (.size (-4)) ∧
        Grid.Respells { leftwardGrid with x := leftwardGrid.x.spaced (-4) } (-4) points) ∧
      1 < leftwardGrid.y.count ∧ leftwardGrid.y.size = some (.size 6) ∧
        Grid.Respells { leftwardGrid with y := leftwardGrid.y.spaced 6 } 6 points := by
  have hpoints : leftwardGrid.points = .ok
      [⟨-4, -3⟩, ⟨-4, -1⟩, ⟨-4, 1⟩, ⟨-4, 3⟩, ⟨-2, -3⟩, ⟨-2, -1⟩, ⟨-2, 1⟩, ⟨-2, 3⟩, ⟨0, -3⟩, ⟨0, -1⟩, ⟨0, 1⟩,
        ⟨0, 3⟩] := by
    decide +kernel
  obtain ⟨hx, hy⟩ := sizes_spelled_as_spacings leftwardGrid _ hpoints
  exact ⟨_, hpoints, ⟨by decide, rfl, hx (-4) (by decide) rfl⟩, by decide, rfl, hy 6 (by decide) rfl⟩

end SketchLayout
