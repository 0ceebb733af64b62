import SketchLayout.Proofs.Placement

/-!
# Grid lines

Along each axis a grid is given by one of two things, and the step and the first point come from different
places: a spacing goes up from zero or around it, a size is resolved to an interval and divided by the gaps
between the points. `GridAxis.Steps` lists the three ways an axis has to a step, the single point being the
third, and `Grid.exists_steps` gives the points of any grid by the steps of its axes.

The last point is never computed as such. In exact lengths it lies where it should all the same: a size is
spanned from end to end, whatever its sign and its order, and a centered spacing is its own mirror image
(`grids_span_or_center`).
-/

namespace SketchLayout

variable {α : Type} [Scalar α]

/-! ## Steps -/

namespace GridAxis

/-- The step of an axis and the place of its first point: nothing counts for a single point, a spacing goes
around zero or up from it, and a size is divided by the gaps from its beginning. -/
inductive Steps (g : GridAxis α) (centered : Bool) : Step α → Prop
  | single (hcount : g.count = 1) : Steps g centered ⟨Scalar.zero, Scalar.zero⟩
  | spaced {spacing : α} (hcount : 1 < g.count) (hspacing : g.spacing = some spacing) (hsize : g.size = none) :
      Steps g centered
        ⟨spacing, if centered then Scalar.half (-spacing * Scalar.ofNat (g.count - 1)) else Scalar.zero⟩
  | sized {size : Dimension α} (hcount : 1 < g.count) (hspacing : g.spacing = none) (hsize : g.size = some size) :
      Steps g centered ⟨(size.resolve centered).size / Scalar.ofNat (g.count - 1), (size.resolve centered).min⟩

theorem steps_of_ok {a : Axis} {g : GridAxis α} {centered : Bool} {s : Step α} (hcount : g.count ≠ 0)
    (h : g.step a centered = .ok s) : g.Steps centered s := by
  unfold step at h
  by_cases hone : g.count = 1
  · rw [if_pos hone] at h
    cases h
    exact .single hone
  · have hmany : 1 < g.count := by omega
    rw [if_neg hone] at h
    dsimp only at h
    split at h
    · cases h
    · cases h
    · rename_i hspacing hsize
      cases h
      exact .sized hmany hspacing hsize
    · rename_i hspacing hsize
      cases h
      exact .spaced hmany hspacing hsize

end GridAxis

/-- The place that is `k` steps from the first point. -/
def Step.place (s : Step α) (k : Nat) : α := Scalar.ofNat k * s.step + s.offset

theorem Step.getElem?_coordinates (s : Step α) {n k : Nat} (hk : k < n) :
    (s.coordinates n)[k]? = some (s.place k) := by
  simp [coordinates, place, hk]

/-- A grid that has points has them in the steps of its axes. -/
theorem Grid.exists_steps {g : Grid α} {points : List (Point α)} (h : g.points = .ok points) :
    ∃ flags sx sy, (g.center.resolve .two : Except (LayoutError α) CenterFlags) = .ok flags ∧
      g.x.Steps flags.x sx ∧ g.y.Steps flags.y sy ∧ points.length = g.x.count * g.y.count ∧
      ∀ i < g.x.count, ∀ j < g.y.count, points[i * g.y.count + j]? = some ⟨sx.place i, sy.place j⟩ := by
  obtain ⟨⟨hx, hy⟩, -, -, flags, sx, sy, hflags, hsx, hsy, rfl⟩ := Grid.points_eq_ok.1 h
  refine ⟨flags, sx, sy, hflags, GridAxis.steps_of_ok hx hsx, GridAxis.steps_of_ok hy hsy, by simp, ?_⟩
  intro i hi j hj
  have hitem := getElem?_pairs_of Point.mk (sx.getElem?_coordinates hi) (sy.getElem?_coordinates hj)
  rwa [Step.length_coordinates] at hitem

/-! ## Exact places -/

theorem Step.place_rat (s : Step Rat) (k : Nat) : s.place k = k * s.step + s.offset := rfl

theorem Step.place_succ (s : Step Rat) (k : Nat) : s.place (k + 1) - s.place k = s.step := by
  rw [place_rat, place_rat]
  push_cast
  ring

/-- The last of the points that divide an interval is its end. -/
theorem Step.place_last (i : Interval Rat) {gaps : Nat} (hgaps : 0 < gaps) :
    (Step.mk (i.size / Scalar.ofNat gaps) i.min).place gaps = i.max := by
  have hne : (gaps : Rat) ≠ 0 := by exact_mod_cast hgaps.ne'
  show (gaps : Rat) * (i.size / (gaps : Rat)) + i.min = i.max
  rw [mul_div_cancel₀ _ hne, Interval.size_rat, sub_add_cancel]

/-- None of them lies outside. -/
theorem Step.contains_place {i : Interval Rat} (hi : i.min ≤ i.max) {gaps k : Nat} (hk : k ≤ gaps) (hgaps : 0 < gaps) :
    i.contains ((Step.mk (i.size / Scalar.ofNat gaps) i.min).place k) = true := by
  have hstep : 0 ≤ i.size / (gaps : Rat) := by
    have hsize : 0 ≤ i.size := by
      rw [Interval.size_rat]
      linarith
    exact div_nonneg hsize (Nat.cast_nonneg gaps)
  -- the places rise from the first to the last, which is the end of the interval
  have hlast := Step.place_last i hgaps
  have hle : (k : Rat) * (i.size / (gaps : Rat)) ≤ gaps * (i.size / (gaps : Rat)) :=
    mul_le_mul_of_nonneg_right (by exact_mod_cast hk) hstep
  have hge : 0 ≤ (k : Rat) * (i.size / (gaps : Rat)) := mul_nonneg (Nat.cast_nonneg k) hstep
  rw [Interval.contains_rat]
  constructor
  · show i.min ≤ (k : Rat) * (i.size / (gaps : Rat)) + i.min
    linarith
  · rw [← hlast]
    show (k : Rat) * (i.size / (gaps : Rat)) + i.min ≤ gaps * (i.size / (gaps : Rat)) + i.min
    linarith

/-- Around zero, two points that are as far from either end lie opposite each other. -/
theorem Step.place_mirrored (spacing : Rat) {gaps k : Nat} (hk : k ≤ gaps) :
    (Step.mk spacing (Scalar.half (-spacing * Scalar.ofNat gaps))).place k +
      (Step.mk spacing (Scalar.half (-spacing * Scalar.ofNat gaps))).place (gaps - k) = 0 := by
  rw [half_rat]
  show (k : Rat) * spacing + -spacing * (gaps : Rat) / 2 +
    (((gaps - k : Nat) : Rat) * spacing + -spacing * (gaps : Rat) / 2) = 0
  rw [Nat.cast_sub hk]
  ring

/-! ## Two axes -/

/-- Points along an axis with more than one: they stand in equal steps. A size, resolved, is spanned from end
to end with every point in it; a spacing is the step, from zero or, centered, in mirror image about it. -/
structure GridAxis.Lines (g : GridAxis Rat) (centered : Bool) (place : Nat → Rat) : Prop where
  given : (g.size = none ∧ g.spacing ≠ none) ∨ (g.size ≠ none ∧ g.spacing = none)
  even : ∀ k l, k + 1 < g.count → l + 1 < g.count → place (k + 1) - place k = place (l + 1) - place l
  first : ∀ size ∈ g.size, place 0 = (size.resolve centered).min
  last : ∀ size ∈ g.size, place (g.count - 1) = (size.resolve centered).max
  inside : ∀ size ∈ g.size, ∀ k < g.count, (size.resolve centered).contains (place k) = true
  apart : ∀ spacing ∈ g.spacing, ∀ k, k + 1 < g.count → place (k + 1) - place k = spacing
  from_zero : g.spacing ≠ none → centered = false → place 0 = 0
  mirrored : g.spacing ≠ none → centered = true → ∀ k < g.count, place k + place (g.count - 1 - k) = 0

theorem GridAxis.Steps.lines {g : GridAxis Rat} {centered : Bool} {s : Step Rat} (h : g.Steps centered s)
    (hmany : 1 < g.count) : g.Lines centered s.place := by
  have hgaps : 0 < g.count - 1 := by omega
  have heven : ∀ k l, k + 1 < g.count → l + 1 < g.count →
      s.place (k + 1) - s.place k = s.place (l + 1) - s.place l := by
    intro k l _ _
    rw [s.place_succ, s.place_succ]
  cases h with
  | single hone => omega
  | @spaced spacing _ hspacing hsize =>
    refine ⟨.inl ⟨hsize, by simp [hspacing]⟩, heven, by simp [hsize], by simp [hsize], by simp [hsize], ?_, ?_, ?_⟩
    · intro spacing' hmem k _
      cases hspacing.symm.trans hmem
      rw [Step.place_succ]
    · intro _ hcentered
      subst hcentered
      simp [Step.place_rat]
    · intro _ hcentered k hk
      subst hcentered
      exact Step.place_mirrored spacing (by omega)
  | @sized size _ hspacing hsize =>
    have hsame : ∀ size' ∈ g.size, size' = size := by
      intro size' hmem
      exact Option.some.inj (hmem.symm.trans hsize)
    refine ⟨.inr ⟨by simp [hsize], hspacing⟩, heven, ?_, ?_, ?_,
      by simp [hspacing], by simp [hspacing], by simp [hspacing]⟩
    · intro size' hmem
      rw [hsame size' hmem, Step.place_rat]
      simp
    · intro size' hmem
      rw [hsame size' hmem]
      exact Step.place_last _ hgaps
    · intro size' hmem k hk
      rw [hsame size' hmem]
      exact Step.contains_place (size.resolve_ordered centered) (by omega) hgaps

/-- **A grid spans its size and centers its spacing.** Whenever points come out, the point at `i * ny + j` is
the `i`-th place along X by the `j`-th along Y, and the places along an axis with more than one point are its
lines. -/
theorem grids_span_or_center (g : Grid Rat) (points : List (Point Rat)) (h : g.points = .ok points) :
    ∃ flags x y, (g.center.resolve .two : Except (LayoutError Rat) CenterFlags) = .ok flags ∧
      points.length = g.x.count * g.y.count ∧
      (∀ i < g.x.count, ∀ j < g.y.count, points[i * g.y.count + j]? = some ⟨x i, y j⟩) ∧
      (1 < g.x.count → g.x.Lines flags.x x) ∧ (1 < g.y.count → g.y.Lines flags.y y) := by
  obtain ⟨flags, sx, sy, hflags, hsx, hsy, hlength, hitem⟩ := Grid.exists_steps h
  exact ⟨flags, sx.place, sy.place, hflags, hlength, hitem, hsx.lines, hsy.lines⟩

/-- Three columns across a width that was given as a negative size, by four rows around zero whose spacing
goes downwards. -/
def negWidth : Grid Rat where
  x := { count := 3, size := some (.size (-5)) }
  y := { count := 4, spacing := some (-1 / 2) }
  center := .axes "Y"

theorem negative_width_spans_and_centers :
    ∃ points, negWidth.points = .ok points ∧
      points = [⟨-5, 3 / 4⟩, ⟨-5, 1 / 4⟩, ⟨-5, -1 / 4⟩, ⟨-5, -3 / 4⟩, ⟨-5 / 2, 3 / 4⟩, ⟨-5 / 2, 1 / 4⟩,
        ⟨-5 / 2, -1 / 4⟩, ⟨-5 / 2, -3 / 4⟩, ⟨0, 3 / 4⟩, ⟨0, 1 / 4⟩, ⟨0, -1 / 4⟩, ⟨0, -3 / 4⟩] ∧
      ∃ flags x y, (negWidth.center.resolve .two : Except (LayoutError Rat) CenterFlags) = .ok flags ∧
        points.length = negWidth.x.count * negWidth.y.count ∧
        (∀ i < negWidth.x.count, ∀ j < negWidth.y.count, points[i * negWidth.y.count + j]? = some ⟨x i, y j⟩) ∧
        (1 < negWidth.x.count → negWidth.x.Lines flags.x x) ∧ (1 < negWidth.y.count → negWidth.y.Lines flags.y y) := by
  have hpoints : negWidth.points = .ok
      [⟨-5, 3 / 4⟩, ⟨-5, 1 / 4⟩, ⟨-5, -1 / 4⟩, ⟨-5, -3 / 4⟩, ⟨-5 / 2, 3 / 4⟩, ⟨-5 / 2, 1 / 4⟩,
        ⟨-5 / 2, -1 / 4⟩, ⟨-5 / 2, -3 / 4⟩, ⟨0, 3 / 4⟩, ⟨0, 1 / 4⟩, ⟨0, -1 / 4⟩, ⟨0, -3 / 4⟩] := by
    decide +kernel
  exact ⟨_, hpoints, rfl, grids_span_or_center negWidth _ hpoints⟩

end SketchLayout
