import SketchLayout.Number.Binary
import SketchLayout.Proofs.Run

/-!
# Inferred counts

An axis without a count infers one from its extent, and what it infers by is read for that alone. So
an axis can be told anew in two ways that no run notices (`Retold`): with the count that it infers
written out, or, where a count is given, with anything else to infer by. A given count and an inferred
one go different ways, through different checks, and for stretched tiles the inferred one may still be
emptied; `countIn_retold` and `fill_retold` say that they arrive at the same. Nothing is assumed of the
arithmetic, so this holds of doubles that are no numbers as well.
-/

namespace SketchLayout

variable {α : Type} [Scalar α]

/-- Where a request lies, if its centering is valid. -/
def Dimension.region? (dx dy : Dimension α) (c : Center) : Option (Rect α) := (resolveRect dx dy c).toOption

theorem Dimension.region?_of_ok {dx dy : Dimension α} {c : Center} {region : Rect α}
    (h : resolveRect dx dy c = .ok region) : region? dx dy c = some region := by
  rw [region?, h]
  rfl

/-! ## Distributed tiles -/

namespace DistributeAxis

/-- The axis told anew for runs in which it lies in `extent?`: as it is, with the count that it infers
there, or, where a count is given, with any spacing to infer one by. -/
inductive Retold (a : Axis) (extent? : Option (Interval α)) (d : DistributeAxis α) : DistributeAxis α → Prop
  | same : Retold a extent? d d
  | counted {extent : Interval α} {n : Nat} (hnone : d.count = none) (hextent : extent? = some extent)
      (hn : d.countIn a extent = .ok n) : Retold a extent? d { d with count := some n }
  | respaced {n : Nat} (hcount : d.count = some n) (spacing : α) :
      Retold a extent? d { d with minSpacing := spacing }

variable {a : Axis} {extent? : Option (Interval α)} {d d' : DistributeAxis α}

theorem Retold.size_eq (h : Retold a extent? d d') : d'.size = d.size := by cases h <;> rfl

theorem Retold.tileSize_eq (h : Retold a extent? d d') : d'.tileSize = d.tileSize := by cases h <;> rfl

/-- An inferred count is within the limit already, so that it passes once it is given. -/
theorem countIn_retold (h : Retold a extent? d d') {extent : Interval α} (he : extent? = some extent) :
    d'.countIn a extent = d.countIn a extent := by
  cases h with
  | same => rfl
  | @counted extent' n hnone hextent hn =>
    cases hextent.symm.trans he
    have hle : n ≤ positionLimit := by
      rw [countIn_eq, inferredCount_eq_ok] at hn
      exact hn.2
    rw [hn]
    exact checkedCount_eq_ok.2 ⟨hle, rfl⟩
  | respaced hcount spacing =>
    unfold countIn
    simp only [hcount]

/-- The positions of a number of tiles depend on the size of the tiles only. -/
theorem positions_congr (h : d'.tileSize = d.tileSize) (anchor : Anchor) (extent : Interval α) (n : Nat) :
    d'.positions anchor extent n = d.positions anchor extent n := by
  unfold positions
  rw [h]

end DistributeAxis

namespace Distribute

def region? (d : Distribute α) : Option (Rect α) := Dimension.region? d.x.size d.y.size d.center

theorem points_retold (d : Distribute α) {x y : DistributeAxis α}
    (hx : d.x.Retold .x (d.region?.map Rect.x) x) (hy : d.y.Retold .y (d.region?.map Rect.y) y) :
    (⟨x, y, d.center, d.anchor⟩ : Distribute α).points = d.points := by
  have htx : x.checkedTile .x = d.x.checkedTile .x := by
    unfold DistributeAxis.checkedTile
    rw [hx.tileSize_eq]
  have hty : y.checkedTile .y = d.y.checkedTile .y := by
    unfold DistributeAxis.checkedTile
    rw [hy.tileSize_eq]
  rw [points_eq, points_eq]
  simp only [htx, hty, hx.size_eq, hy.size_eq]
  refine bind_congr_ok fun _ _ => bind_congr_ok fun _ _ => bind_congr_ok fun region hr => ?_
  have hregion : d.region? = some region := Dimension.region?_of_ok hr
  have hnx : x.countIn .x region.x = d.x.countIn .x region.x :=
    DistributeAxis.countIn_retold hx (by rw [hregion]; rfl)
  have hny : y.countIn .y region.y = d.y.countIn .y region.y :=
    DistributeAxis.countIn_retold hy (by rw [hregion]; rfl)
  rw [hnx, hny]
  simp only [DistributeAxis.positions_congr hx.tileSize_eq, DistributeAxis.positions_congr hy.tileSize_eq]

end Distribute

/-! ## Stretched tiles -/

namespace StretchAxis

/-- The axis told anew for runs in which it lies in `extent?`: as it is, with the number of tiles that
it derives there, or, where a count is given, with any bounds to derive one by. -/
inductive Retold (a : Axis) (extent? : Option (Interval α)) (s : StretchAxis α) : StretchAxis α → Prop
  | same : Retold a extent? s s
  | counted {extent : Interval α} {f : Fill α} (hnone : s.count = none) (hextent : extent? = some extent)
      (hf : s.fill a extent.size = .ok f) : Retold a extent? s { s with count := some f.count }
  | rebounded {n : Nat} (hcount : s.count = some n) (low high : Option α) :
      Retold a extent? s { s with minTile := low, maxTile := high }

variable {a : Axis} {extent? : Option (Interval α)} {s s' : StretchAxis α}

theorem Retold.size_eq (h : Retold a extent? s s') : s'.size = s.size := by cases h <;> rfl

/-- Tiles that were derived, or emptied for want of room, are the tiles of their number. -/
theorem fill_retold (h : Retold a extent? s s') {extent : Interval α} (he : extent? = some extent) :
    s'.fill a extent.size = s.fill a extent.size := by
  cases h with
  | same => rfl
  | @counted extent' f hnone hextent hf =>
    cases hextent.symm.trans he
    have hcount : (checkedCount a f.count : Except (LayoutError α) Nat) = .ok f.count :=
      checkedCount_eq_ok.2 ⟨count_fill_le hf, rfl⟩
    rw [hf]
    show (checkedCount a f.count >>= fun n => pure (Fill.stretched n extent.size s.spacing)) = Except.ok f
    rw [hcount, ok_bind, ← fill_eq_stretched hf]
    rfl
  | rebounded hcount low high =>
    unfold fill
    simp only [hcount]

end StretchAxis

namespace Stretch

def region? (s : Stretch α) : Option (Rect α) := Dimension.region? s.x.size s.y.size s.center

theorem tiles_retold (s : Stretch α) {x y : StretchAxis α} (hx : s.x.Retold .x (s.region?.map Rect.x) x)
    (hy : s.y.Retold .y (s.region?.map Rect.y) y) : (⟨x, y, s.center⟩ : Stretch α).tiles = s.tiles := by
  unfold tiles
  simp only [hx.size_eq, hy.size_eq]
  refine bind_congr_ok fun region hr => ?_
  have hregion : s.region? = some region := Dimension.region?_of_ok hr
  have hfx : x.fill .x region.x.size = s.x.fill .x region.x.size :=
    StretchAxis.fill_retold hx (by rw [hregion]; rfl)
  have hfy : y.fill .y region.y.size = s.y.fill .y region.y.size :=
    StretchAxis.fill_retold hy (by rw [hregion]; rfl)
  -- the corners are placed by a distribution that reads the sizes of the axes and their fills
  have horigins : ∀ fx fy : Fill α, origins ⟨x, y, s.center⟩ fx fy = s.origins fx fy := by
    intro fx fy
    simp only [origins, hx.size_eq, hy.size_eq]
  simp only [hfx, hfy, horigins]

end Stretch

/-! ## The law -/

/-- **Inference only chooses a count.** Whichever axes of a distribution or of a stretch are told anew,
with the count that they infer written out or with other things to infer by where a count is given,
the run comes to the same, errors included. -/
theorem runs_of_retold_axes :
    (∀ (d : Distribute α) (x y : DistributeAxis α), d.x.Retold .x (d.region?.map Rect.x) x →
        d.y.Retold .y (d.region?.map Rect.y) y → (⟨x, y, d.center, d.anchor⟩ : Distribute α).points = d.points) ∧
      ∀ (s : Stretch α) (x y : StretchAxis α), s.x.Retold .x (s.region?.map Rect.x) x →
        s.y.Retold .y (s.region?.map Rect.y) y → (⟨x, y, s.center⟩ : Stretch α).tiles = s.tiles :=
  ⟨fun d _ _ => d.points_retold, fun s _ _ => s.tiles_retold⟩

/-- As many columns as fit, by two rows whose spacing is no number. -/
def nanGap : Distribute Float where
  x := { size := .size 10.5, tileSize := 2, minSpacing := 1 }
  y := { size := .range 5 (-1), tileSize := 3, count := some 2, minSpacing := 0 / 0 }
  center := .axes "y"

/-- One tile would be enough along X, where there is no room for it, by three along Y. -/
def noRoom : Stretch Float where
  x := { size := .size 0, maxTile := some 5, spacing := 1 }
  y := { size := .size 4, count := some 3, minTile := some (0 / 0), spacing := 0 }
  center := .flag false

/-- The distribution is told with its three columns and with an infinite spacing of the rows, the stretched tiles
with no tile along X and with no bounds along Y. -/
theorem inferred_counts_retold :
    (nanGap.x.Retold .x (nanGap.region?.map Rect.x) { nanGap.x with count := some 3 } ∧
        nanGap.y.Retold .y (nanGap.region?.map Rect.y) { nanGap.y with minSpacing := 1 / 0 } ∧
        (⟨{ nanGap.x with count := some 3 }, { nanGap.y with minSpacing := 1 / 0 }, nanGap.center, nanGap.anchor⟩ :
          Distribute Float).points = nanGap.points) ∧
      noRoom.x.Retold .x (noRoom.region?.map Rect.x) { noRoom.x with count := some 0 } ∧
        noRoom.y.Retold .y (noRoom.region?.map Rect.y) { noRoom.y with minTile := none, maxTile := none } ∧
        (⟨{ noRoom.x with count := some 0 }, { noRoom.y with minTile := none, maxTile := none }, noRoom.center⟩ :
          Stretch Float).tiles = noRoom.tiles := by
  have hx : nanGap.x.Retold .x (nanGap.region?.map Rect.x) { nanGap.x with count := some 3 } := by
    have hcolumns : (nanGap.x.countIn .x (nanGap.x.size.resolve false)).toOption = some 3 := by decide +kernel
    exact .counted rfl rfl (eq_ok_of_toOption hcolumns)
  have hy : nanGap.y.Retold .y (nanGap.region?.map Rect.y) { nanGap.y with minSpacing := 1 / 0 } := .respaced rfl _
  have hx' : noRoom.x.Retold .x (noRoom.region?.map Rect.x) { noRoom.x with count := some 0 } := by
    have hbare : (noRoom.x.fill .x (noRoom.x.size.resolve false).size).toOption.map Fill.count = some 0 := by
      decide +kernel
    obtain ⟨f, hf, h0⟩ := Option.map_eq_some_iff.1 hbare
    rw [← h0]
    exact .counted rfl rfl (eq_ok_of_toOption hf)
  have hy' : noRoom.y.Retold .y (noRoom.region?.map Rect.y) { noRoom.y with minTile := none, maxTile := none } :=
    .rebounded rfl none none
  obtain ⟨distributions, stretches⟩ := runs_of_retold_axes (α := Float)
  exact ⟨⟨hx, hy, distributions nanGap _ _ hx hy⟩, hx', hy', stretches noRoom _ _ hx' hy'⟩

end SketchLayout
