import SketchLayout.Proofs.Centering

/-!
# Exchanging the axes

`swap` exchanges X and Y in a request: the settings of the two axes, and the letters of a centering
word. Grids and distributions answer the exchanged request with the transposed list and refuse it
exactly when they refuse the request itself (`Grid.points_swap`, `Distribute.points_swap`). A stretch
looks at X first: it does the same whenever tiles come out, and the two runs can only part where one
of them ends early on an X axis without tiles (`Stretch.tiles_swap`, `Stretch.bare_of_part`). All of
it holds for every type of lengths.
-/

namespace SketchLayout

/-! ## Centering -/

namespace Center

/-- The letter of the other axis of the plane; every other character stays. -/
def swapLetter : Char → Char
  | 'X' => 'Y'
  | 'Y' => 'X'
  | 'x' => 'y'
  | 'y' => 'x'
  | c => c

/-- The request with X and Y exchanged. -/
def swap : Center → Center
  | .flag on => .flag on
  | .axes letters => .axes (letters.map swapLetter)

theorem swapLetter_of_notMem {c : Char} (h : c ∉ ['X', 'Y', 'x', 'y']) : swapLetter c = c := by
  simp only [List.mem_cons, List.not_mem_nil, or_false, not_or] at h
  unfold swapLetter
  split <;> simp_all

theorem swapLetter_swapLetter (c : Char) : swapLetter (swapLetter c) = c := by
  by_cases h : c ∈ ['X', 'Y', 'x', 'y']
  · simp only [List.mem_cons, List.not_mem_nil, or_false] at h
    rcases h with rfl | rfl | rfl | rfl <;> rfl
  · rw [swapLetter_of_notMem h, swapLetter_of_notMem h]

/-- No other character has a capital X or Y. -/
theorem mem_of_toUpper_mem {c : Char} (h : c.toUpper ∈ ['X', 'Y', 'x', 'y']) : c ∈ ['X', 'Y', 'x', 'y'] := by
  unfold Char.toUpper at h
  split at h
  · rename_i hlower
    simp only [List.mem_cons, List.not_mem_nil, or_false, Char.ext_iff] at h ⊢
    grind
  · exact h

theorem toUpper_swapLetter (c : Char) : (swapLetter c).toUpper = swapLetter c.toUpper := by
  by_cases h : c ∈ ['X', 'Y', 'x', 'y']
  · simp only [List.mem_cons, List.not_mem_nil, or_false] at h
    rcases h with rfl | rfl | rfl | rfl <;> rfl
  · rw [swapLetter_of_notMem h, swapLetter_of_notMem fun hu => h (mem_of_toUpper_mem hu)]

@[simp] theorem swap_swap (c : Center) : c.swap.swap = c := by
  cases c with
  | flag on => rfl
  | axes letters =>
    simp only [swap, String.map_map, axes.injEq]
    apply String.ext
    simp [String.toList_map, Function.comp_def, swapLetter_swapLetter]

theorem capitals_map_swapLetter (letters : String) :
    capitals (letters.map swapLetter) = (capitals letters).map swapLetter := by
  simp [capitals, String.toList_map, Function.comp_def, toUpper_swapLetter]

theorem mem_map_swapLetter {word : List Char} {c : Char} :
    c ∈ word.map swapLetter ↔ swapLetter c ∈ word := by
  rw [List.mem_map]
  constructor
  · rintro ⟨b, hb, rfl⟩; rwa [swapLetter_swapLetter]
  · intro h; exact ⟨_, h, swapLetter_swapLetter c⟩

/-- Read in the plane, a word gives two flags: whether it has an X and whether it has a Y. -/
theorem resolve_axes_two {α : Type} {letters : String} {flags : CenterFlags} :
    ((Center.axes letters).resolve .two : Except (LayoutError α) CenterFlags) = .ok flags ↔
      (capitals letters ≠ [] ∧ ∀ c ∈ capitals letters, c = 'X' ∨ c = 'Y') ∧
        flags = ⟨'X' ∈ capitals letters, 'Y' ∈ capitals letters, false⟩ := by
  have hfits : (Center.axes letters).Fits .two ↔
      capitals letters ≠ [] ∧ ∀ c ∈ capitals letters, c = 'X' ∨ c = 'Y' := by
    simp [Fits, capitals, Dimensionality.axes, Axis.letter]
  have hflags : CenterFlags.ofAxes (Dimensionality.two.axes.filter fun a => (capitals letters).contains a.letter) =
      ⟨'X' ∈ capitals letters, 'Y' ∈ capitals letters, false⟩ := by
    by_cases hX : 'X' ∈ capitals letters <;> by_cases hY : 'Y' ∈ capitals letters <;>
      simp [Dimensionality.axes, Axis.letter, hX, hY, CenterFlags.ofAxes, CenterFlags.set, CenterFlags.none]
  rw [resolve_axes_eq_ok, hfits, hflags]

end Center

def CenterFlags.swap (flags : CenterFlags) : CenterFlags := ⟨flags.y, flags.x, flags.z⟩

theorem Center.resolve_swap {α : Type} {c : Center} {flags : CenterFlags}
    (h : (c.resolve .two : Except (LayoutError α) CenterFlags) = .ok flags) :
    (c.swap.resolve .two : Except (LayoutError α) CenterFlags) = .ok flags.swap := by
  cases c with
  | flag on => cases on <;> cases h <;> rfl
  | axes letters =>
    obtain ⟨⟨hne, hall⟩, rfl⟩ := resolve_axes_two.1 h
    refine resolve_axes_two.2 ⟨⟨?_, fun c hc => ?_⟩, ?_⟩
    · rw [capitals_map_swapLetter]; simpa using hne
    · rw [capitals_map_swapLetter, mem_map_swapLetter] at hc
      have hback := swapLetter_swapLetter c
      rcases hall _ hc with hX | hY
      · rw [hX] at hback; exact .inr hback.symm
      · rw [hY] at hback; exact .inl hback.symm
    · simp only [capitals_map_swapLetter, mem_map_swapLetter, CenterFlags.swap]; rfl

/-! ## Runs and exchanged runs -/

/-- A run that survives an exchange, whatever is exchanged, is refused together with the exchanged one. -/
theorem isOk_iff_of_survives {δ ε β : Type} {turn : δ → δ} (hturn : ∀ d, turn (turn d) = d) {run : δ → Except ε β}
    (hrun : ∀ {d b}, run d = .ok b → ∃ c, run (turn d) = .ok c) (d : δ) :
    (run d).isOk ↔ (run (turn d)).isOk := by
  rw [isOk_iff, isOk_iff]
  constructor
  · rintro ⟨b, hb⟩; exact hrun hb
  · rintro ⟨b, hb⟩
    obtain ⟨c, hc⟩ := hrun hb
    exact ⟨c, by rwa [hturn] at hc⟩

/-! ## Regions, points and tiles -/

def Point.swap {α : Type} (p : Point α) : Point α := ⟨p.y, p.x⟩

def Rect.swap {α : Type} (r : Rect α) : Rect α := ⟨r.y, r.x⟩

variable {α : Type} [Scalar α]

theorem resolveRect_swap {dx dy : Dimension α} {c : Center} {r : Rect α}
    (h : Dimension.resolveRect dx dy c = .ok r) : Dimension.resolveRect dy dx c.swap = .ok r.swap := by
  obtain ⟨flags, hf, rfl⟩ := resolveRect_eq_ok.1 h
  exact resolveRect_eq_ok.2 ⟨flags.swap, Center.resolve_swap hf, rfl⟩

/-! ## Grids -/

namespace Grid

def swap (g : Grid α) : Grid α := ⟨g.y, g.x, g.center.swap⟩

omit [Scalar α] in
@[simp] theorem swap_swap (g : Grid α) : g.swap.swap = g := by simp [swap]

theorem points_swap {g : Grid α} {ps : List (Point α)} (h : g.points = .ok ps) :
    ∃ qs, g.swap.points = .ok qs ∧ Transposed Point.swap g.x.count g.y.count ps qs := by
  obtain ⟨⟨hx, hy⟩, ⟨hlx, hly⟩, ht, flags, sx, sy, hf, hsx, hsy, rfl⟩ := points_eq_ok.1 h
  refine ⟨_, points_eq_ok.2 ⟨⟨hy, hx⟩, ⟨hly, hlx⟩, ?_, flags.swap, sy, sx, Center.resolve_swap hf,
    (GridAxis.step_eq_ok_axis .x).1 hsy, (GridAxis.step_eq_ok_axis .y).1 hsx, rfl⟩, ?_⟩
  · rw [Nat.mul_comm]; exact ht
  · have := transposed_pairs Point.swap Point.mk (fun _ _ => rfl) (sx.coordinates g.x.count)
      (sy.coordinates g.y.count)
    rwa [Step.length_coordinates, Step.length_coordinates] at this

theorem isOk_swap (g : Grid α) : g.points.isOk ↔ g.swap.points.isOk := by
  refine isOk_iff_of_survives swap_swap (fun h => ?_) g
  obtain ⟨qs, hqs, -⟩ := points_swap h
  exact ⟨qs, hqs⟩

end Grid

/-! ## Distributed tiles -/

namespace Distribute

def swap (d : Distribute α) : Distribute α := ⟨d.y, d.x, d.center.swap, d.anchor⟩

omit [Scalar α] in
@[simp] theorem swap_swap (d : Distribute α) : d.swap.swap = d := by simp [swap]

theorem points_swap {d : Distribute α} {ps : List (Point α)} (h : d.points = .ok ps) :
    ∃ region nx ny qs, Dimension.resolveRect d.x.size d.y.size d.center = .ok region ∧
      d.x.countIn .x region.x = .ok nx ∧ d.y.countIn .y region.y = .ok ny ∧ d.swap.points = .ok qs ∧
      Transposed Point.swap nx ny ps qs := by
  obtain ⟨⟨htx, hty⟩, region, nx, ny, hr, hnx, hny, ht, rfl⟩ := points_eq_ok.1 h
  refine ⟨region, nx, ny, _, hr, hnx, hny, points_eq_ok.2 ⟨⟨hty, htx⟩, region.swap, ny, nx,
    resolveRect_swap hr, (DistributeAxis.countIn_eq_ok_axis .x).1 hny,
    (DistributeAxis.countIn_eq_ok_axis .y).1 hnx, ?_, rfl⟩, ?_⟩
  · rw [Nat.mul_comm]; exact ht
  · have := transposed_pairs Point.swap Point.mk (fun _ _ => rfl)
      (d.x.positions d.anchor region.x nx) (d.y.positions d.anchor region.y ny)
    rwa [DistributeAxis.length_positions, DistributeAxis.length_positions] at this

theorem isOk_swap (d : Distribute α) : d.points.isOk ↔ d.swap.points.isOk := by
  refine isOk_iff_of_survives swap_swap (fun h => ?_) d
  obtain ⟨_, _, _, qs, -, -, -, hqs, -⟩ := points_swap h
  exact ⟨qs, hqs⟩

end Distribute

/-! ## Stretched tiles -/

namespace Stretch

def swap (s : Stretch α) : Stretch α := ⟨s.y, s.x, s.center.swap⟩

omit [Scalar α] in
@[simp] theorem swap_swap (s : Stretch α) : s.swap.swap = s := by simp [swap]

/-- Exchanging the axes exchanges the fills. -/
theorem Fills.swap {s : Stretch α} {region : Rect α} {fx fy : Fill α} (h : s.Fills region fx fy) :
    s.swap.Fills region.swap fy fx where
  settles := ⟨resolveRect_swap h.settles.1, (StretchAxis.fill_eq_ok_axis .x).1 h.fill_y⟩
  fill_y := (StretchAxis.fill_eq_ok_axis .y).1 h.settles.2
  place_x := h.place_y
  place_y := h.place_x
  total := by rw [Nat.mul_comm]; exact h.total

theorem tiles_swap {s : Stretch α} {ts : List (Rect α)} (h : s.tiles = .ok ts) (hne : ts ≠ []) :
    ∃ region fx fy us, Dimension.resolveRect s.x.size s.y.size s.center = .ok region ∧
      s.x.fill .x region.x.size = .ok fx ∧ s.y.fill .y region.y.size = .ok fy ∧ s.swap.tiles = .ok us ∧
      Transposed Rect.swap fx.count fy.count ts us := by
  obtain ⟨region, fx, fy, hf, rfl⟩ := fills_of_tiles h hne
  refine ⟨region, fx, fy, _, hf.settles.1, hf.settles.2, hf.fill_y, tiles_of_fills hf.swap, ?_⟩
  have := transposed_pairs Rect.swap Rect.mk (fun _ _ => rfl) (s.x.spans fx region.x)
    (s.y.spans fy region.y)
  rwa [StretchAxis.length_spans, StretchAxis.length_spans] at this

/-- The X axis of a stretch takes no tiles, which ends its run early. -/
def BareX (s : Stretch α) : Prop := ∃ region fx, s.SettlesX region fx ∧ fx.count = 0

/-- Where a stretch succeeds and the exchanged one does not, X takes no tiles. -/
theorem bare_of_part {s : Stretch α} (h : s.tiles.isOk) (hs : ¬ s.swap.tiles.isOk) :
    s.tiles = .ok [] ∧ s.BareX := by
  obtain ⟨ts, hts⟩ := isOk_iff.1 h
  obtain ⟨region, fx, hx, ⟨h0, rfl⟩ | ⟨fy, hfy, ⟨h0, -⟩ | ⟨hf, -⟩⟩⟩ := tiles_cases hts
  · exact ⟨hts, region, fx, hx, h0⟩
  · -- Y takes no tiles, so the exchanged run ends early as well
    have hsettles : s.swap.SettlesX region.swap fy :=
      ⟨resolveRect_swap hx.1, (StretchAxis.fill_eq_ok_axis .x).1 hfy⟩
    exact absurd (isOk_iff.2 ⟨_, tiles_of_bare_x hsettles h0⟩) hs
  · exact absurd (isOk_iff.2 ⟨_, tiles_of_fills hf.swap⟩) hs

end Stretch

/-! ## The law -/

/-- **The axes are treated alike.** Exchanging X and Y transposes the points of a grid and of a
distribution and the tiles of a stretch, item by item. Grids and distributions are refused together
with the exchanged request; of a stretch and the exchanged one, one alone can succeed only with no
tiles at all, its own X axis taking none. -/
theorem axes_alike :
    (∀ g : Grid α, (g.points.isOk ↔ g.swap.points.isOk) ∧
      ∀ ps, g.points = .ok ps →
        ∃ qs, g.swap.points = .ok qs ∧ Transposed Point.swap g.x.count g.y.count ps qs) ∧
    (∀ d : Distribute α, (d.points.isOk ↔ d.swap.points.isOk) ∧
      ∀ ps, d.points = .ok ps →
        ∃ region nx ny qs, Dimension.resolveRect d.x.size d.y.size d.center = .ok region ∧
          d.x.countIn .x region.x = .ok nx ∧ d.y.countIn .y region.y = .ok ny ∧ d.swap.points = .ok qs ∧
          Transposed Point.swap nx ny ps qs) ∧
    (∀ s : Stretch α,
      (∀ ts, s.tiles = .ok ts → ts ≠ [] →
        ∃ region fx fy us, Dimension.resolveRect s.x.size s.y.size s.center = .ok region ∧
          s.x.fill .x region.x.size = .ok fx ∧ s.y.fill .y region.y.size = .ok fy ∧ s.swap.tiles = .ok us ∧
          Transposed Rect.swap fx.count fy.count ts us) ∧
      (s.tiles.isOk → ¬ s.swap.tiles.isOk → s.tiles = .ok [] ∧ s.BareX) ∧
      (¬ s.tiles.isOk → s.swap.tiles.isOk → s.swap.tiles = .ok [] ∧ s.swap.BareX)) := by
  refine ⟨fun g => ⟨g.isOk_swap, fun ps => Grid.points_swap⟩,
    fun d => ⟨d.isOk_swap, fun ps => Distribute.points_swap⟩,
    fun s => ⟨fun ts => Stretch.tiles_swap, Stretch.bare_of_part, fun h hs => ?_⟩⟩
  exact Stretch.bare_of_part hs (by rwa [Stretch.swap_swap])

/-! ### A request of every kind -/

/-- Three columns one apart by two rows, centered along Y. -/
def dots : Grid Rat := ⟨{ count := 3, spacing := some 1 }, { count := 2, size := some (.size 5) }, .axes "y"⟩

/-- As many columns as fit by five rows, which overlap. -/
def racks : Distribute Rat where
  x := { size := .range (-2) 9, tileSize := 3, minSpacing := 1 }
  y := { size := .size 4, tileSize := 1, count := some 5, minSpacing := 0 }
  center := .axes "y"
  anchor := .origin

/-- Four columns by two rows, with gaps. -/
def panes : Stretch Rat where
  x := { size := .size (-9), minTile := some 2, spacing := 1 / 4 }
  y := { size := .range 5 (-1), count := some 2, spacing := 1 }
  center := .flag true

/-- Too narrow for a tile along X, and without anything to go by along Y. -/
def sliver : Stretch Rat where
  x := { size := .size 1, minTile := some 2, spacing := 0 }
  y := { size := .size 3, spacing := 0 }
  center := .flag false

/-- The sliver is refused only once its axes are exchanged; the other three keep their items. -/
theorem axes_alike_of_every_kind :
    (∃ ps qs, dots.points = .ok ps ∧ dots.swap.points = .ok qs ∧ Transposed Point.swap 3 2 ps qs) ∧
    (∃ ps qs nx ny, racks.points = .ok ps ∧ racks.swap.points = .ok qs ∧ Transposed Point.swap nx ny ps qs) ∧
    (∃ ts us nx ny, panes.tiles = .ok ts ∧ ts ≠ [] ∧ panes.swap.tiles = .ok us ∧
      Transposed Rect.swap nx ny ts us) ∧
    (sliver.tiles.isOk ∧ ¬ sliver.swap.tiles.isOk ∧ sliver.tiles = .ok [] ∧ sliver.BareX) := by
  obtain ⟨grids, distributes, stretches⟩ := axes_alike (α := Rat)
  have hdots : dots.points.isOk := by decide +kernel
  have hracks : racks.points.isOk := by decide +kernel
  have hpanes : panes.tiles.isOk := by decide +kernel
  have hcount : panes.tiles.toOption.map List.length = some 8 := by decide +kernel
  have hsliver : sliver.tiles.isOk := by decide +kernel
  have hrefused : ¬ sliver.swap.tiles.isOk := by decide +kernel
  refine ⟨?_, ?_, ?_, hsliver, hrefused, (stretches sliver).2.1 hsliver hrefused⟩
  · obtain ⟨ps, hps⟩ := isOk_iff.1 hdots
    obtain ⟨qs, hqs, ht⟩ := (grids dots).2 ps hps
    exact ⟨ps, qs, hps, hqs, ht⟩
  · obtain ⟨ps, hps⟩ := isOk_iff.1 hracks
    obtain ⟨_, nx, ny, qs, -, -, -, hqs, ht⟩ := (distributes racks).2 ps hps
    exact ⟨ps, qs, nx, ny, hps, hqs, ht⟩
  · obtain ⟨ts, hts⟩ := isOk_iff.1 hpanes
    have hne : ts ≠ [] := by
      rintro rfl
      rw [hts] at hcount
      cases hcount
    obtain ⟨_, fx, fy, us, -, -, -, hus, ht⟩ := (stretches panes).1 ts hts hne
    exact ⟨ts, us, fx.count, fy.count, hts, hne, hus, ht⟩

end SketchLayout
