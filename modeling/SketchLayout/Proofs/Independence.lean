import SketchLayout.Number.Binary
import SketchLayout.Proofs.Run

/-!
# Independent axes

What a generator lists is the product of two lists, one per axis, and neither list sees the other axis:
it depends on what the request says about its own axis, on the flag that the centering has for it and,
for a distribution, on the anchor. `line` gives the list of one axis from just that, by the same function
for X and for Y, and `outputs_are_products` says that every output with items is the product of two such
lines. A stretch passes both axes through a distribution, which lets nothing through either.
-/

namespace SketchLayout

/-! ## Products of two sides -/

/-- The items of a run, whenever there are any, are the pairs of two lists, and each list is the same for
all requests that are alike on its side. -/
def Independent {ρ ε κ β δ : Type} (run : ρ → Except ε (List δ)) (f : β → β → δ) (left right : ρ → κ) : Prop :=
  ∃ xs ys : ρ → List β,
    (∀ r items, run r = .ok items → items ≠ [] → xs r ≠ [] ∧ ys r ≠ [] ∧ items = pairs f (xs r) (ys r)) ∧
      (∀ p q, left p = left q → xs p = xs q) ∧ ∀ p q, right p = right q → ys p = ys q

/-- Two functions of the sides whose products are the items are all that is needed. -/
theorem independent_of_lines {ρ ε κ β δ : Type} {run : ρ → Except ε (List δ)} {f : β → β → δ} {left right : ρ → κ}
    (lineX lineY : κ → List β)
    (h : ∀ r items, run r = .ok items → items ≠ [] → items = pairs f (lineX (left r)) (lineY (right r))) :
    Independent run f left right := by
  refine ⟨fun r => lineX (left r), fun r => lineY (right r), ?_, ?_, ?_⟩
  · intro r items hr hne
    have hitems := h r items hr hne
    have hx : lineX (left r) ≠ [] := by
      intro hx
      rw [hx, pairs_nil] at hitems
      exact hne hitems
    have hy : lineY (right r) ≠ [] := by
      intro hy
      rw [hy, pairs_nil_right] at hitems
      exact hne hitems
    exact ⟨hx, hy, hitems⟩
  · intro p q hpq
    simp only [hpq]
  · intro p q hpq
    simp only [hpq]

/-- The flag of an axis of the plane, if the centering is valid there. -/
def Center.flag? (α : Type) (c : Center) (a : Axis) : Option Bool :=
  (c.resolve .two : Except (LayoutError α) CenterFlags).toOption.map (·.get a)

theorem Center.flag?_of_ok {α : Type} {c : Center} {flags : CenterFlags}
    (h : (c.resolve .two : Except (LayoutError α) CenterFlags) = .ok flags) (a : Axis) :
    c.flag? α a = some (flags.get a) := by
  rw [flag?, h]
  rfl

variable {α : Type} [Scalar α]

/-! ## Grids -/

/-- The coordinates along an axis, none without a flag or a step. -/
def GridAxis.line (g : GridAxis α) (flag? : Option Bool) : List α :=
  (flag?.bind fun centered => (g.step .x centered).toOption.map (·.coordinates g.count)).getD []

theorem GridAxis.line_of_ok {a : Axis} {g : GridAxis α} {centered : Bool} {s : Step α}
    (h : g.step a centered = .ok s) : g.line (some centered) = s.coordinates g.count := by
  rw [step_eq_ok_axis .x] at h
  show ((g.step .x centered).toOption.map (·.coordinates g.count)).getD [] = _
  rw [h]
  rfl

namespace Grid

omit [Scalar α] in
/-- What a grid says about X. -/
def aboutX (g : Grid α) : GridAxis α × Option Bool := (g.x, g.center.flag? α .x)

omit [Scalar α] in
def aboutY (g : Grid α) : GridAxis α × Option Bool := (g.y, g.center.flag? α .y)

theorem independent : Independent (Grid.points (α := α)) Point.mk aboutX aboutY := by
  refine independent_of_lines (fun side => side.1.line side.2) (fun side => side.1.line side.2) ?_
  intro g ps h _
  obtain ⟨-, -, -, flags, sx, sy, hf, hsx, hsy, rfl⟩ := points_eq_ok.1 h
  simp only [aboutX, aboutY, Center.flag?_of_ok hf, CenterFlags.get, GridAxis.line_of_ok hsx,
    GridAxis.line_of_ok hsy]

end Grid

/-! ## Distributed tiles -/

/-- The positions along an axis, none without a flag or a count. -/
def DistributeAxis.line (d : DistributeAxis α) (anchor : Anchor) (flag? : Option Bool) : List α :=
  (flag?.bind fun centered =>
    let extent := d.size.resolve centered
    (d.countIn .x extent).toOption.map (d.positions anchor extent)).getD []

theorem DistributeAxis.line_of_ok {a : Axis} {d : DistributeAxis α} {centered : Bool} {n : Nat}
    (h : d.countIn a (d.size.resolve centered) = .ok n) (anchor : Anchor) :
    d.line anchor (some centered) = d.positions anchor (d.size.resolve centered) n := by
  rw [countIn_eq_ok_axis .x] at h
  show ((d.countIn .x (d.size.resolve centered)).toOption.map _).getD [] = _
  rw [h]
  rfl

namespace Distribute

omit [Scalar α] in
def aboutX (d : Distribute α) : DistributeAxis α × Anchor × Option Bool := (d.x, d.anchor, d.center.flag? α .x)

omit [Scalar α] in
def aboutY (d : Distribute α) : DistributeAxis α × Anchor × Option Bool := (d.y, d.anchor, d.center.flag? α .y)

theorem independent : Independent (Distribute.points (α := α)) Point.mk aboutX aboutY := by
  refine independent_of_lines (fun side => side.1.line side.2.1 side.2.2) (fun side => side.1.line side.2.1 side.2.2) ?_
  intro d ps h _
  obtain ⟨-, region, nx, ny, hr, hnx, hny, -, rfl⟩ := points_eq_ok.1 h
  obtain ⟨flags, hf, rfl⟩ := resolveRect_eq_ok.1 hr
  simp only [aboutX, aboutY, Center.flag?_of_ok hf, CenterFlags.get, DistributeAxis.line_of_ok hnx,
    DistributeAxis.line_of_ok hny]

end Distribute

/-! ## Stretched tiles -/

/-- The intervals along an axis, none without a flag or a fill. -/
def StretchAxis.line (s : StretchAxis α) (flag? : Option Bool) : List (Interval α) :=
  (flag?.bind fun centered =>
    let extent := s.size.resolve centered
    (s.fill .x extent.size).toOption.map (s.spans · extent)).getD []

theorem StretchAxis.line_of_ok {a : Axis} {s : StretchAxis α} {centered : Bool} {f : Fill α}
    (h : s.fill a (s.size.resolve centered).size = .ok f) :
    s.line (some centered) = s.spans f (s.size.resolve centered) := by
  rw [fill_eq_ok_axis .x] at h
  show ((s.fill .x (s.size.resolve centered).size).toOption.map _).getD [] = _
  rw [h]
  rfl

namespace Stretch

omit [Scalar α] in
def aboutX (s : Stretch α) : StretchAxis α × Option Bool := (s.x, s.center.flag? α .x)

omit [Scalar α] in
def aboutY (s : Stretch α) : StretchAxis α × Option Bool := (s.y, s.center.flag? α .y)

theorem independent : Independent (Stretch.tiles (α := α)) Rect.mk aboutX aboutY := by
  refine independent_of_lines (fun side => side.1.line side.2) (fun side => side.1.line side.2) ?_
  intro s ts h hne
  obtain ⟨region, fx, fy, hfills, rfl⟩ := fills_of_tiles h hne
  obtain ⟨hr, hfx⟩ := hfills.settles
  obtain ⟨flags, hf, rfl⟩ := resolveRect_eq_ok.1 hr
  simp only [aboutX, aboutY, Center.flag?_of_ok hf, CenterFlags.get, StretchAxis.line_of_ok hfx,
    StretchAxis.line_of_ok hfills.fill_y]

end Stretch

/-! ## The law -/

/-- **Outputs are products of independent axes.** The points of a grid and of a distribution and the tiles
of a stretch are, whenever there are any, the pairs of two lists in order, with X in the outer place; and
the list of an axis is the same for all requests that say the same about that axis. -/
theorem outputs_are_products :
    Independent (Grid.points (α := α)) Point.mk Grid.aboutX Grid.aboutY ∧
      Independent (Distribute.points (α := α)) Point.mk Distribute.aboutX Distribute.aboutY ∧
      Independent (Stretch.tiles (α := α)) Rect.mk Stretch.aboutX Stretch.aboutY :=
  ⟨Grid.independent, Distribute.independent, Stretch.independent⟩

/-- Three columns around the middle by rows that are at most two high. -/
def cappedY : Stretch Float where
  x := { size := .size 0.7, count := some 3, spacing := 0.1 }
  y := { size := .size 4.5, maxTile := some 2, spacing := 0 }
  center := .axes "x"

/-- The same columns by two rows with a gap, around the middle as well. -/
def gappedY : Stretch Float where
  x := cappedY.x
  y := { size := .range 1 (-3), count := some 2, minTile := some (0 / 0), spacing := 0.5 }
  center := .flag true

/-- The tiles of both are made of the same columns. -/
theorem rows_share_columns :
    cappedY.aboutX = gappedY.aboutX ∧
      ∃ tiles tiles' xs ys ys', cappedY.tiles = .ok tiles ∧ tiles ≠ [] ∧ gappedY.tiles = .ok tiles' ∧ tiles' ≠ [] ∧
        xs ≠ [] ∧ tiles = pairs Rect.mk xs ys ∧ tiles' = pairs Rect.mk xs ys' := by
  have habout : cappedY.aboutX = gappedY.aboutX := rfl
  have hnine : cappedY.tiles.toOption.map List.length = some 9 := by decide +kernel
  have hsix : gappedY.tiles.toOption.map List.length = some 6 := by decide +kernel
  obtain ⟨tiles, htiles, hlength⟩ := Option.map_eq_some_iff.1 hnine
  obtain ⟨tiles', htiles', hlength'⟩ := Option.map_eq_some_iff.1 hsix
  have hne : tiles ≠ [] := List.ne_nil_of_length_pos (by omega)
  have hne' : tiles' ≠ [] := List.ne_nil_of_length_pos (by omega)
  obtain ⟨-, -, xs, ys, hproduct, hx, -⟩ := outputs_are_products (α := Float)
  obtain ⟨hxs, -, hpairs⟩ := hproduct _ _ (eq_ok_of_toOption htiles) hne
  obtain ⟨-, -, hpairs'⟩ := hproduct _ _ (eq_ok_of_toOption htiles') hne'
  refine ⟨habout, tiles, tiles', xs cappedY, ys cappedY, ys gappedY, eq_ok_of_toOption htiles, hne,
    eq_ok_of_toOption htiles', hne', hxs, hpairs, ?_⟩
  rw [hx _ _ habout]
  exact hpairs'

end SketchLayout
