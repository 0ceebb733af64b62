import SketchLayout.Proofs.Doubles
import SketchLayout.Proofs.GridLines
import SketchLayout.Proofs.StretchRuns

/-!
# What is said against a request

A request for a grid or for distributed tiles is checked step by step, and the first step that refuses it
names the error. What can be said against either is a list here, in the order in which it is looked for
(`Grid.objections`, `Distribute.objections`): a run fails with just the error of the first objection that is
raised, and a run without objections succeeds. A list decides a run when the lists of its steps, one behind
the other, decide theirs (`decidedBy_bind`).

The order matters wherever several things are wrong at once. A grid is counted before its centering is read,
distributed tiles after; a number of tiles along Y is refused even where X takes none; and a single point
along an axis takes every objection to its spacing away.
-/

namespace SketchLayout

variable {α β γ : Type}

/-! ## Objections in order -/

/-- Something to be said against a request: the errors that say it, none where it does not apply. -/
def Objection (α : Type) : Type := LayoutError α → Prop

/-- The objection with one error, under a condition. -/
def Objection.when (c : Prop) (e : LayoutError α) : Objection α := fun e' => c ∧ e' = e

/-- The error of the first objection that is raised. -/
inductive FirstRaised : List (Objection α) → LayoutError α → Prop
  | here {o : Objection α} {os : List (Objection α)} {e : LayoutError α} (h : o e) : FirstRaised (o :: os) e
  | later {o : Objection α} {os : List (Objection α)} {e : LayoutError α} (h : ∀ e', ¬ o e') (hos : FirstRaised os e) :
      FirstRaised (o :: os) e

/-- No objection is raised. -/
def Unopposed (os : List (Objection α)) : Prop := ∀ o ∈ os, ∀ e, ¬ o e

/-- A run fails with just the errors that are raised first. -/
def DecidedBy (run : Except (LayoutError α) β) (os : List (Objection α)) : Prop :=
  ∀ e, run = .error e ↔ FirstRaised os e

section
variable {o : Objection α} {os os' : List (Objection α)} {e : LayoutError α}

theorem firstRaised_cons : FirstRaised (o :: os) e ↔ o e ∨ (∀ e', ¬ o e') ∧ FirstRaised os e := by
  constructor
  · intro h
    cases h with
    | here h => exact .inl h
    | later h hos => exact .inr ⟨h, hos⟩
  · rintro (h | ⟨h, hos⟩)
    · exact .here h
    · exact .later h hos

theorem not_firstRaised_nil : ¬ FirstRaised ([] : List (Objection α)) e := nofun

theorem FirstRaised.exists_mem (h : FirstRaised os e) : ∃ o ∈ os, o e := by
  induction h with
  | here h => exact ⟨_, List.mem_cons_self, h⟩
  | later _ _ ih =>
    obtain ⟨o, ho, h⟩ := ih
    exact ⟨o, List.mem_cons_of_mem _ ho, h⟩

theorem Objection.when_not {c : Prop} : (∀ e', ¬ when c e e') ↔ ¬ c := by
  constructor
  · intro h hc
    exact h e ⟨hc, rfl⟩
  · rintro hc e' ⟨h, -⟩
    exact hc h

theorem unopposed_cons : Unopposed (o :: os) ↔ (∀ e, ¬ o e) ∧ Unopposed os := List.forall_mem_cons

theorem firstRaised_append :
    FirstRaised (os ++ os') e ↔ FirstRaised os e ∨ Unopposed os ∧ FirstRaised os' e := by
  induction os with
  | nil => simp [not_firstRaised_nil, Unopposed]
  | cons o os ih =>
    rw [List.cons_append, firstRaised_cons, firstRaised_cons, unopposed_cons, ih]
    constructor
    · rintro (h | ⟨h, hos | ⟨hos, hos'⟩⟩)
      · exact .inl (.inl h)
      · exact .inl (.inr ⟨h, hos⟩)
      · exact .inr ⟨⟨h, hos⟩, hos'⟩
    · rintro ((h | ⟨h, hos⟩) | ⟨⟨h, hos⟩, hos'⟩)
      · exact .inl h
      · exact .inr ⟨h, .inl hos⟩
      · exact .inr ⟨h, .inr ⟨hos, hos'⟩⟩

/-- Where objections are raised, one of them is the first. -/
theorem unopposed_iff : Unopposed os ↔ ∀ e, ¬ FirstRaised os e := by
  induction os with
  | nil => simp [not_firstRaised_nil, Unopposed]
  | cons o os ih =>
    simp only [unopposed_cons, firstRaised_cons, ih, not_or, not_and]
    constructor
    · rintro ⟨h, hos⟩ e
      exact ⟨h e, fun _ => hos e⟩
    · intro h
      exact ⟨fun e => (h e).1, fun e => (h e).2 fun e' => (h e').1⟩

end

/-! ## Runs -/

section
variable {x : Except (LayoutError α) β} {f : β → Except (LayoutError α) γ} {os os' : List (Objection α)}

theorem DecidedBy.exists_ok_iff (h : DecidedBy x os) : (∃ b, x = .ok b) ↔ Unopposed os := by
  rw [unopposed_iff]
  cases x with
  | error e => simpa using ⟨e, (h e).1 rfl⟩
  | ok b =>
    simp only [Except.ok.injEq, exists_eq', true_iff]
    intro e he
    cases (h e).2 he

theorem decidedBy_ok (b : β) : DecidedBy (.ok b : Except (LayoutError α) β) [] := by
  intro e
  simp [not_firstRaised_nil]

/-- A check that refuses under a condition. -/
theorem decidedBy_ite (c : Prop) [Decidable c] (e : LayoutError α) (b : β) :
    DecidedBy (if c then .error e else .ok b) [.when c e] := by
  intro e'
  by_cases hc : c
  · simp [firstRaised_cons, not_firstRaised_nil, Objection.when, hc, eq_comm]
  · simp [firstRaised_cons, not_firstRaised_nil, Objection.when, hc]

/-- **Steps one behind the other**: what is said against the second is heard when nothing is said against
the first. -/
theorem decidedBy_bind (hx : DecidedBy x os) (hf : ∀ b, x = .ok b → DecidedBy (f b) os') :
    DecidedBy (x >>= f) (os ++ os') := by
  intro e
  rw [firstRaised_append]
  cases x with
  | error e₀ =>
    have hopposed : ¬ Unopposed os := fun h => unopposed_iff.1 h e₀ ((hx e₀).1 rfl)
    rw [← hx e]
    simp [hopposed, bind, Except.bind]
  | ok b =>
    have hunopposed : Unopposed os := hx.exists_ok_iff.1 ⟨b, rfl⟩
    rw [← hx e, ok_bind, hf b rfl e]
    simp [hunopposed]

/-- A step that cannot fail adds nothing. -/
theorem DecidedBy.map (hx : DecidedBy x os) (g : β → γ) : DecidedBy (x >>= fun b => pure (g b)) os := by
  have h := decidedBy_bind hx fun b _ => decidedBy_ok (g b)
  rwa [List.append_nil] at h

/-- The same objection in other words. -/
theorem DecidedBy.reword {o o' : Objection α} (hx : DecidedBy x [o]) (h : ∀ e, o e ↔ o' e) : DecidedBy x [o'] := by
  have hsame : o = o' := funext fun e => propext (h e)
  rwa [← hsame]

end

/-! ## Checks that requests share -/

theorem decidedBy_checkedCount (a : Axis) (n : Nat) :
    DecidedBy (checkedCount a n : Except (LayoutError α) Nat) [.when (positionLimit < n) (.countTooLarge a)] :=
  decidedBy_ite _ _ _

theorem decidedBy_checkedTotal (nx ny : Nat) :
    DecidedBy (checkedTotal nx ny : Except (LayoutError α) Nat)
      [.when (positionLimit < nx * ny) (.tooManyPositions nx ny)] :=
  decidedBy_ite _ _ _

theorem decidedBy_inferredCount (a : Axis) (wanted : Option Nat) :
    DecidedBy (inferredCount a wanted : Except (LayoutError α) Nat) [.when (Exceeds wanted) (.countTooLarge a)] := by
  cases wanted with
  | none =>
    intro e
    simp [inferredCount, firstRaised_cons, not_firstRaised_nil, Objection.when, Exceeds, eq_comm]
  | some n => exact decidedBy_checkedCount a n

/-- A centering that cannot be read in a setting. -/
def Center.objection (c : Center) (d : Dimensionality) : Objection α :=
  fun e => ∃ letters, c = .axes letters ∧ ¬ c.Fits d ∧ e = .invalidCenter letters d

theorem decidedBy_resolve (c : Center) (d : Dimensionality) :
    DecidedBy (c.resolve d : Except (LayoutError α) CenterFlags) [c.objection d] := by
  intro e
  rw [firstRaised_cons]
  simp only [not_firstRaised_nil, and_false, or_false]
  rcases Center.resolve_cases α c d with ⟨letters, hword, hrefused⟩ | ⟨flags, hflags⟩
  · have hfits : ¬ c.Fits d := by
      rw [← Center.isOk_resolve α, hrefused]
      exact Bool.false_ne_true
    rw [hrefused, Except.error.injEq]
    constructor
    · rintro rfl
      exact ⟨letters, hword, hfits, rfl⟩
    · rintro ⟨letters', hword', -, rfl⟩
      cases hword.symm.trans hword'
      rfl
  · have hfits : c.Fits d := (Center.resolve_eq_ok.1 hflags).1
    rw [hflags]
    constructor
    · exact nofun
    · rintro ⟨letters, -, hnot, -⟩
      exact absurd hfits hnot

/-! ## Grids -/

namespace GridAxis

/-- Several points with a spacing and a size. -/
def conflict (a : Axis) (g : GridAxis α) : Objection α :=
  .when (1 < g.count ∧ g.spacing ≠ none ∧ g.size ≠ none) (.spacingConflict a)

/-- Several points with neither. -/
def missing (a : Axis) (g : GridAxis α) : Objection α :=
  .when (1 < g.count ∧ g.spacing = none ∧ g.size = none) (.spacingMissing a)

theorem decidedBy_checkedPositive (a : Axis) (g : GridAxis α) :
    DecidedBy (g.checkedPositive a) [.when (g.count = 0) (.invalidCount a)] :=
  decidedBy_ite _ _ _

theorem decidedBy_step [Scalar α] {a : Axis} {g : GridAxis α} {centered : Bool} (hcount : g.count ≠ 0) :
    DecidedBy (g.step a centered) [g.conflict a, g.missing a] := by
  intro e
  simp only [firstRaised_cons, not_firstRaised_nil, and_false, or_false, conflict, missing, Objection.when]
  unfold step
  by_cases hone : g.count = 1
  · simp [hone]
  · have hmany : 1 < g.count := by omega
    rw [if_neg hone]
    cases hspacing : g.spacing <;> cases hsize : g.size <;> simp [hmany, eq_comm]

end GridAxis

namespace Grid

/-- What can be said against a grid, in the order in which it is looked for. -/
def objections (g : Grid α) : List (Objection α) :=
  [.when (g.x.count = 0) (.invalidCount .x), .when (g.y.count = 0) (.invalidCount .y),
    .when (positionLimit < g.x.count) (.countTooLarge .x), .when (positionLimit < g.y.count) (.countTooLarge .y),
    .when (positionLimit < g.x.count * g.y.count) (.tooManyPositions g.x.count g.y.count),
    g.center.objection .two, g.x.conflict .x, g.x.missing .x, g.y.conflict .y, g.y.missing .y]

theorem decidedBy_objections [Scalar α] (g : Grid α) : DecidedBy g.points g.objections := by
  refine decidedBy_bind (g.x.decidedBy_checkedPositive .x) fun _ hx => ?_
  refine decidedBy_bind (g.y.decidedBy_checkedPositive .y) fun _ hy => ?_
  have hx0 : g.x.count ≠ 0 := GridAxis.checkedPositive_eq_ok.1 hx
  have hy0 : g.y.count ≠ 0 := GridAxis.checkedPositive_eq_ok.1 hy
  refine decidedBy_bind (decidedBy_checkedCount .x g.x.count) fun nx hnx => ?_
  refine decidedBy_bind (decidedBy_checkedCount .y g.y.count) fun ny hny => ?_
  obtain ⟨-, rfl⟩ := checkedCount_eq_ok.1 hnx
  obtain ⟨-, rfl⟩ := checkedCount_eq_ok.1 hny
  refine decidedBy_bind (decidedBy_checkedTotal g.x.count g.y.count) fun _ _ => ?_
  refine decidedBy_bind (decidedBy_resolve g.center .two) fun flags _ => ?_
  -- the spacing is looked at last, when there is at least one point along either axis
  refine decidedBy_bind (GridAxis.decidedBy_step hx0) fun sx _ => ?_
  exact (GridAxis.decidedBy_step hy0).map fun sy => _

end Grid

/-- **A grid is decided by its objections.** It fails with just the error of the first that is raised. When
none is, its points are the pairs of the places along X and along Y, X in the outer place: as many as the
product of the counts, in the steps that are given for either axis. -/
theorem grid_decided [Scalar α] (g : Grid α) :
    (∀ e, g.points = .error e ↔ FirstRaised g.objections e) ∧
      (Unopposed g.objections → ∃ points flags sx sy, g.points = .ok points ∧
        (g.center.resolve .two : Except (LayoutError α) CenterFlags) = .ok flags ∧
        g.x.Steps flags.x sx ∧ g.y.Steps flags.y sy ∧ points.length = g.x.count * g.y.count ∧
        ∀ i < g.x.count, ∀ j < g.y.count, points[i * g.y.count + j]? =
          some ⟨Scalar.ofNat i * sx.step + sx.offset, Scalar.ofNat j * sy.step + sy.offset⟩) := by
  refine ⟨g.decidedBy_objections, fun hnone => ?_⟩
  obtain ⟨points, hpoints⟩ := g.decidedBy_objections.exists_ok_iff.2 hnone
  obtain ⟨flags, sx, sy, h⟩ := Grid.exists_steps hpoints
  exact ⟨points, flags, sx, sy, hpoints, h⟩

/-- Three columns around zero by a single row, for which the spacing and the size do not matter. -/
def oneRow : Grid Float where
  x := { count := 3, spacing := some 0.1 }
  y := { count := 1, spacing := some 2, size := some (.size 7) }
  center := .axes "xX"

theorem single_row_decided :
    oneRow.points = .ok [⟨-0.1, 0⟩, ⟨0, 0⟩, ⟨0.1, 0⟩] ∧ Unopposed oneRow.objections ∧
      ∃ points flags sx sy, oneRow.points = .ok points ∧
        (oneRow.center.resolve .two : Except (LayoutError Float) CenterFlags) = .ok flags ∧
        oneRow.x.Steps flags.x sx ∧ oneRow.y.Steps flags.y sy ∧ points.length = oneRow.x.count * oneRow.y.count ∧
        ∀ i < oneRow.x.count, ∀ j < oneRow.y.count, points[i * oneRow.y.count + j]? =
          some ⟨Scalar.ofNat i * sx.step + sx.offset, Scalar.ofNat j * sy.step + sy.offset⟩ := by
  have hpoints : oneRow.points = .ok [⟨-0.1, 0⟩, ⟨0, 0⟩, ⟨0.1, 0⟩] := by decide +kernel
  have hnone : Unopposed oneRow.objections := oneRow.decidedBy_objections.exists_ok_iff.1 ⟨_, hpoints⟩
  exact ⟨hpoints, hnone, (grid_decided oneRow).2 hnone⟩

/-- Too many rows are refused before the centering, and before the spacing that the columns lack. -/
example : ({ x := { count := 3 }, y := { count := 16777217 }, center := .axes "q" } : Grid Float).points =
    .error (.countTooLarge .y) := by
  decide +kernel

/-! ## Distributed tiles -/

namespace Distribute
variable [Scalar α]

/-- Where tiles are distributed. -/
def Lies (d : Distribute α) (region : Rect α) : Prop :=
  Dimension.resolveRect d.x.size d.y.size d.center = .ok region

/-- More tiles in all than the limit, where neither axis asks for more. -/
def overfull (d : Distribute α) : Objection α := fun e =>
  ∃ region nx ny, d.Lies region ∧ d.x.asked region.x = some nx ∧ d.y.asked region.y = some ny ∧
    positionLimit < nx * ny ∧ e = .tooManyPositions nx ny

/-- What can be said against distributed tiles, in the order in which it is looked for. -/
def objections (d : Distribute α) : List (Objection α) :=
  [.when (Scalar.le d.x.tileSize Scalar.zero = true) (.invalidTileSize .x d.x.tileSize),
    .when (Scalar.le d.y.tileSize Scalar.zero = true) (.invalidTileSize .y d.y.tileSize),
    d.center.objection .two,
    .when (∃ region, d.Lies region ∧ Exceeds (d.x.asked region.x)) (.countTooLarge .x),
    .when (∃ region, d.Lies region ∧ Exceeds (d.y.asked region.y)) (.countTooLarge .y),
    d.overfull]

/-- What holds of the region holds of any region where the tiles lie: there is one. -/
theorem Lies.exists_iff {d : Distribute α} {region : Rect α} (h : d.Lies region) (p : Rect α → Prop) :
    (∃ region, d.Lies region ∧ p region) ↔ p region := by
  constructor
  · rintro ⟨region', h', hp⟩
    cases h.symm.trans h'
    exact hp
  · intro hp
    exact ⟨region, h, hp⟩

theorem decidedBy_countIn (a : Axis) (d : DistributeAxis α) (extent : Interval α) :
    DecidedBy (d.countIn a extent) [.when (Exceeds (d.asked extent)) (.countTooLarge a)] := by
  rw [DistributeAxis.countIn_eq]
  exact decidedBy_inferredCount a _

theorem decidedBy_objections (d : Distribute α) : DecidedBy d.points d.objections := by
  rw [Distribute.points_eq]
  refine decidedBy_bind (decidedBy_ite _ _ _) fun _ _ => ?_
  refine decidedBy_bind (decidedBy_ite _ _ _) fun _ _ => ?_
  refine decidedBy_bind ((decidedBy_resolve d.center .two).map _) fun region hr => ?_
  have hlies : d.Lies region := hr
  have hexceeds : ∀ d' : DistributeAxis α, ∀ along : Rect α → Interval α, Exceeds (d'.asked (along region)) ↔
      ∃ region, d.Lies region ∧ Exceeds (d'.asked (along region)) :=
    fun d' along => (hlies.exists_iff fun r => Exceeds (d'.asked (along r))).symm
  have hx := (decidedBy_countIn .x d.x region.x).reword fun _ => and_congr_left' (hexceeds d.x Rect.x)
  have hy := (decidedBy_countIn .y d.y region.y).reword fun _ => and_congr_left' (hexceeds d.y Rect.y)
  refine decidedBy_bind hx fun nx hnx => ?_
  refine decidedBy_bind hy fun ny hny => ?_
  rw [DistributeAxis.countIn_eq, inferredCount_eq_ok] at hnx hny
  refine ((decidedBy_checkedTotal nx ny).reword fun e => ?_).map _
  constructor
  · rintro ⟨htotal, rfl⟩
    exact ⟨region, nx, ny, hlies, hnx.1, hny.1, htotal, rfl⟩
  · rintro ⟨region', nx', ny', hlies', hnx', hny', htotal, rfl⟩
    cases hlies.symm.trans hlies'
    cases hnx.1.symm.trans hnx'
    cases hny.1.symm.trans hny'
    exact ⟨htotal, rfl⟩

end Distribute

/-! ## Counting by a ratio -/

namespace Reach

/-- No tile fits in what is nowhere or does not come up to one. -/
theorem fitting_eq_zero {r : Reach} : r.fitting = some 0 ↔ r = undefined ∨ lt r (finite 1) = true := by
  cases r with
  | undefined => simp [fitting]
  | below => simp [fitting, lt]
  | above => simp [fitting, lt]
  | finite q =>
    have hone : (1 : Int) ≤ q.floor ↔ (1 : Rat) ≤ q := by
      rw [Rat.le_floor_iff, Int.cast_one]
    simp only [fitting, lt, Option.some.injEq, reduceCtorEq, false_or, decide_eq_true_eq]
    rw [← not_le, ← hone]
    omega

/-- More fit than the limit when one more than the limit does. -/
theorem exceeds_fitting {r : Reach} : Exceeds r.fitting ↔ le (finite 16777217) r = true := by
  cases r with
  | undefined => simp [fitting, Exceeds, le]
  | below => simp [fitting, Exceeds, le]
  | above => simp [fitting, Exceeds, le]
  | finite q =>
    have hlimit : (16777217 : Int) ≤ q.floor ↔ (16777217 : Rat) ≤ q := by
      rw [Rat.le_floor_iff]
      norm_num
    simp only [fitting, Exceeds, le, decide_eq_true_eq, positionLimit]
    rw [← hlimit]
    omega

end Reach

/-- The ratio that an axis without a count takes tiles by: extent and tile each with one clearance more. -/
def DistributeAxis.ratio [Scalar α] (d : DistributeAxis α) (extent : Interval α) : α :=
  (extent.size + d.minSpacing) / (d.tileSize + d.minSpacing)

/-- How many tiles an axis asks for: those it is given or else, by its ratio, none when that is no number or
below one, and as many as its whole part says otherwise, which are too many from one above the limit on. -/
structure DistributeAxis.AsksBy (d : DistributeAxis Float) (extent : Interval Float) : Prop where
  given : ∀ n, d.count = some n → d.asked extent = some n
  none_iff : d.count = none → (d.asked extent = some 0 ↔ (d.ratio extent).isNaN = true ∨ d.ratio extent < 1)
  floor : d.count = none → ∀ q, Scalar.reach (d.ratio extent) = .finite q → d.asked extent = some q.floor.toNat
  exceeds_iff : d.count = none → (Exceeds (d.asked extent) ↔ 16777217 ≤ d.ratio extent)

theorem DistributeAxis.asksBy (d : DistributeAxis Float) (extent : Interval Float) : d.AsksBy extent := by
  have hasked : d.count = none → d.asked extent = (Scalar.reach (d.ratio extent)).fitting := by
    intro hcount
    rw [asked, hcount]
    rfl
  constructor
  · intro n hcount
    rw [asked, hcount]
  · intro hcount
    have hone : Scalar.reach (1 : Float) = .finite 1 := by decide +kernel
    have hlt : d.ratio extent < 1 ↔ Scalar.lt (d.ratio extent) 1 = true := decide_eq_true_iff.symm
    rw [hasked hcount, Reach.fitting_eq_zero, isNaN_iff, hlt, Scalar.lt_float, hone]
  · intro hcount q hq
    rw [hasked hcount, hq]
    rfl
  · intro hcount
    have hlimit : Scalar.reach (16777217 : Float) = .finite 16777217 := by decide +kernel
    have hle : 16777217 ≤ d.ratio extent ↔ Scalar.le 16777217 (d.ratio extent) = true := decide_eq_true_iff.symm
    rw [hasked hcount, Reach.exceeds_fitting, hle, Scalar.le_float, hlimit]

/-- **Distributed tiles are decided by their objections.** The run fails with just the error of the first that
is raised. When none is, it has as many points as the product of the numbers of tiles that the axes ask for,
none just when one of these is zero. -/
theorem distribution_decided (d : Distribute Float) :
    (∀ e, d.points = .error e ↔ FirstRaised d.objections e) ∧
      (Unopposed d.objections → ∃ points region nx ny, d.points = .ok points ∧ d.Lies region ∧
        d.x.asked region.x = some nx ∧ d.y.asked region.y = some ny ∧ points.length = nx * ny ∧
        (points = [] ↔ nx = 0 ∨ ny = 0)) ∧
      ∀ extent, d.x.AsksBy extent ∧ d.y.AsksBy extent := by
  refine ⟨d.decidedBy_objections, fun hnone => ?_, fun extent => ⟨d.x.asksBy extent, d.y.asksBy extent⟩⟩
  obtain ⟨points, hpoints⟩ := d.decidedBy_objections.exists_ok_iff.2 hnone
  obtain ⟨-, region, nx, ny, hlies, hnx, hny, -, hproduct⟩ := Distribute.points_eq_ok.1 hpoints
  rw [DistributeAxis.countIn_eq, inferredCount_eq_ok] at hnx hny
  have hlength : points.length = nx * ny := by simp [hproduct]
  refine ⟨points, region, nx, ny, hpoints, hlies, hnx.1, hny.1, hlength, ?_⟩
  rw [← List.length_eq_zero_iff, hlength, Nat.mul_eq_zero]

/-- Tiles that may overlap by their whole size leave no number for the ratio of X. The rows are given. -/
def nanRatio : Distribute Float where
  x := { size := .size 2, tileSize := 2, minSpacing := -2 }
  y := { size := .range 4 (-1), tileSize := 1, count := some 3, minSpacing := 9 }
  center := .flag false

theorem nan_ratio_decided :
    nanRatio.points = .ok [] ∧ Unopposed nanRatio.objections ∧
      (∃ points region nx ny, nanRatio.points = .ok points ∧ nanRatio.Lies region ∧
        nanRatio.x.asked region.x = some nx ∧ nanRatio.y.asked region.y = some ny ∧ points.length = nx * ny ∧
        (points = [] ↔ nx = 0 ∨ ny = 0)) ∧
      (nanRatio.x.ratio ⟨0, 2⟩).isNaN = true ∧ nanRatio.x.asked ⟨0, 2⟩ = some 0 := by
  have hpoints : nanRatio.points = .ok [] := by decide +kernel
  have hnone : Unopposed nanRatio.objections := nanRatio.decidedBy_objections.exists_ok_iff.1 ⟨_, hpoints⟩
  have hnan : (nanRatio.x.ratio ⟨0, 2⟩).isNaN = true := by decide +kernel
  obtain ⟨-, hrun, hasked⟩ := distribution_decided nanRatio
  exact ⟨hpoints, hnone, hrun hnone, hnan, ((hasked ⟨0, 2⟩).1.none_iff rfl).2 (.inl hnan)⟩

/-- Too many rows are refused where there are no columns. -/
example : (⟨⟨.size 2, 2, some 0, 0⟩, ⟨.size 4, 1, some 16777217, 0⟩, .default, .center⟩ : Distribute Float).points =
    .error (.countTooLarge .y) := by
  decide +kernel

end SketchLayout
