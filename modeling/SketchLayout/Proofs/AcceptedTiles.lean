import SketchLayout.Proofs.Objections

/-!
# Tile sizes that are accepted

A tile has to be greater than zero, and a size that is not is to be refused for the first axis that has one.
The check asks whether the size is at most zero, though, and what is no number is neither greater than zero
nor at most zero. So the promise holds but for one size, that which is no number: it is accepted wherever a
size is looked at, given or stretched (`nan_tiles_placed`). `accepted_tiles` says that no other size slips
through, and that every size of zero or below is refused.
-/

namespace SketchLayout

/-- A tile size that is accepted: one greater than zero, or what is no number. -/
def AcceptedTile (size : Float) : Prop := 0 < size ∨ size.isNaN = true

/-- What is not at most zero is accepted. -/
theorem acceptedTile_iff {size : Float} : AcceptedTile size ↔ Scalar.le size Scalar.zero = false := by
  have hzero : Scalar.reach (Scalar.zero : Float) = .finite 0 := by decide +kernel
  have hpos : 0 < size ↔ Scalar.lt Scalar.zero size = true := decide_eq_true_iff.symm
  rw [AcceptedTile, hpos, Scalar.lt_float, Scalar.le_float, isNaN_iff, hzero]
  cases Scalar.reach size with
  | finite q => simp [Reach.lt, Reach.le]
  | _ => simp [Reach.lt, Reach.le]

theorem not_acceptedTile_iff {size : Float} : ¬ AcceptedTile size ↔ size ≤ 0 := by
  rw [acceptedTile_iff, Bool.not_eq_false]
  exact decide_eq_true_iff

/-- Tiles are placed when both sizes are accepted. -/
theorem Distribute.accepted_of_ok {d : Distribute Float} {points : List (Point Float)} (h : d.points = .ok points) :
    AcceptedTile d.x.tileSize ∧ AcceptedTile d.y.tileSize := by
  obtain ⟨⟨hx, hy⟩, -⟩ := Distribute.points_eq_ok.1 h
  exact ⟨acceptedTile_iff.2 hx, acceptedTile_iff.2 hy⟩

/-- What is looked for after the sizes is said with other errors. -/
theorem Distribute.not_invalidTileSize_of_later {d : Distribute Float} {o : Objection Float} {a : Axis} {size : Float}
    (ho : o ∈ d.objections.drop 2) : ¬ o (.invalidTileSize a size) := by
  intro he
  simp only [objections, List.drop_succ_cons, List.drop_zero, List.mem_cons, List.not_mem_nil, or_false] at ho
  rcases ho with rfl | rfl | rfl | rfl
  · obtain ⟨_, -, -, he⟩ := he
    cases he
  · cases he.2
  · cases he.2
  · obtain ⟨_, _, _, -, -, -, -, he⟩ := he
    cases he

/-- A size is an error when it is at most zero, that of Y only where that of X is accepted. -/
theorem Distribute.invalidTileSize_iff {d : Distribute Float} {a : Axis} {size : Float} :
    d.points = .error (.invalidTileSize a size) ↔
      (a = .x ∧ size = d.x.tileSize ∧ d.x.tileSize ≤ 0) ∨
        (a = .y ∧ size = d.y.tileSize ∧ AcceptedTile d.x.tileSize ∧ d.y.tileSize ≤ 0) := by
  have hx : Scalar.le d.x.tileSize Scalar.zero = true ↔ d.x.tileSize ≤ 0 := decide_eq_true_iff
  have hy : Scalar.le d.y.tileSize Scalar.zero = true ↔ d.y.tileSize ≤ 0 := decide_eq_true_iff
  have hrest : ¬ FirstRaised (d.objections.drop 2) (.invalidTileSize a size) := by
    intro h
    obtain ⟨o, ho, he⟩ := h.exists_mem
    exact Distribute.not_invalidTileSize_of_later ho he
  have hsplit : d.objections = .when (Scalar.le d.x.tileSize Scalar.zero = true) (.invalidTileSize .x d.x.tileSize) ::
      .when (Scalar.le d.y.tileSize Scalar.zero = true) (.invalidTileSize .y d.y.tileSize) :: d.objections.drop 2 := rfl
  rw [d.decidedBy_objections, hsplit, firstRaised_cons, firstRaised_cons, Objection.when_not, Objection.when_not,
    hx, hy, ← not_acceptedTile_iff, ← not_acceptedTile_iff, not_not]
  constructor
  · rintro (⟨htile, he⟩ | ⟨hpassed, ⟨htile, he⟩ | ⟨-, h⟩⟩)
    · cases he
      exact .inl ⟨rfl, rfl, htile⟩
    · cases he
      exact .inr ⟨rfl, rfl, hpassed, htile⟩
    · exact absurd h hrest
  · rintro (⟨rfl, rfl, htile⟩ | ⟨rfl, rfl, hpassed, htile⟩)
    · exact .inl ⟨htile, rfl⟩
    · exact .inr ⟨hpassed, .inl ⟨htile, rfl⟩⟩

/-- Stretched tiles come out when the sizes that they are stretched to are accepted. -/
theorem Stretch.Fills.accepted {s : Stretch Float} {region : Rect Float} {fx fy : Fill Float}
    (h : s.Fills region fx fy) : AcceptedTile fx.tile ∧ AcceptedTile fy.tile :=
  ⟨acceptedTile_iff.2 h.place_x.tile_pos, acceptedTile_iff.2 h.place_y.tile_pos⟩

/-- **Only accepted tiles are placed, and only sizes of zero or below are refused.** -/
theorem accepted_tiles (d : Distribute Float) (s : Stretch Float) :
    (∀ points, d.points = .ok points → AcceptedTile d.x.tileSize ∧ AcceptedTile d.y.tileSize) ∧
      (∀ a size, d.points = .error (.invalidTileSize a size) ↔
        (a = .x ∧ size = d.x.tileSize ∧ d.x.tileSize ≤ 0) ∨
          (a = .y ∧ size = d.y.tileSize ∧ AcceptedTile d.x.tileSize ∧ d.y.tileSize ≤ 0)) ∧
      ∀ tiles, s.tiles = .ok tiles → tiles ≠ [] →
        ∃ region fx fy, s.Fills region fx fy ∧ AcceptedTile fx.tile ∧ AcceptedTile fy.tile := by
  refine ⟨fun points h => Distribute.accepted_of_ok h, fun a size => Distribute.invalidTileSize_iff, ?_⟩
  intro tiles h hne
  obtain ⟨region, fx, fy, hfills, -⟩ := Stretch.fills_of_tiles h hne
  exact ⟨region, fx, fy, hfills, hfills.accepted⟩

/-- Two tiles whose size along X is no number. -/
def nanTiles : Distribute Float where
  x := { size := .size 3, tileSize := 0 / 0, count := some 2, minSpacing := 0 }
  y := { size := .size 1, tileSize := 1, count := some 1, minSpacing := 0 }

/-- Gaps without end leave no number for the size of two tiles. -/
def endlessGaps : Stretch Float where
  x := { size := .size 4, count := some 2, spacing := 1 / 0 }
  y := { size := .size 2, maxTile := some 2, spacing := 0 }

theorem nan_tiles_accepted :
    AcceptedTile nanTiles.x.tileSize ∧ AcceptedTile nanTiles.y.tileSize ∧
      ∃ region fx fy, endlessGaps.Fills region fx fy ∧ AcceptedTile fx.tile ∧ AcceptedTile fy.tile := by
  have hpoints : nanTiles.points = .ok [⟨0 / 0, 0⟩, ⟨0 / 0, 0⟩] := by decide +kernel
  have htiles : endlessGaps.tiles = .ok [⟨⟨0 / 0, 0 / 0⟩, ⟨-1, 1⟩⟩, ⟨⟨0 / 0, 0 / 0⟩, ⟨-1, 1⟩⟩] := by decide +kernel
  obtain ⟨hghosts, -, hhaze⟩ := accepted_tiles nanTiles endlessGaps
  obtain ⟨hx, hy⟩ := hghosts _ hpoints
  exact ⟨hx, hy, hhaze _ htiles (List.cons_ne_nil _ _)⟩

/-- What is no number is placed, at points and with tiles that are no numbers either. -/
theorem nan_tiles_placed :
    nanTiles.points = .ok [⟨0 / 0, 0⟩, ⟨0 / 0, 0⟩] ∧ ¬ 0 < nanTiles.x.tileSize ∧
      endlessGaps.tiles = .ok [⟨⟨0 / 0, 0 / 0⟩, ⟨-1, 1⟩⟩, ⟨⟨0 / 0, 0 / 0⟩, ⟨-1, 1⟩⟩] ∧
      endlessGaps.x.fill .x 4 = .ok ⟨2, 0 / 0⟩ ∧ ¬ (0 : Float) < 0 / 0 := by
  decide +kernel

/-- Zero is refused with either sign, behind a size that slipped through as well. -/
example : (⟨⟨.size 3, 0 / 0, some 2, 0⟩, ⟨.size 1, -0, some 1, 0⟩, .default, .center⟩ : Distribute Float).points =
    .error (.invalidTileSize .y (-0)) := by
  decide +kernel

end SketchLayout
