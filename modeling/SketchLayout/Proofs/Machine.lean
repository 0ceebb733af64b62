import Mathlib.Data.Rat.Floor
import SketchLayout.Number.Literal
import SketchLayout.Proofs.Run

/-!
# Layouts on a machine

Counts are words of sixty-four bits and lists take memory. `guarded` computes layouts as a machine
does and stops with a fault where the machine would do something else than is meant: at a length that
is taken for a count and is none, one less than zero, a product that no word holds, a list of
positions beyond the limit. The guarded run of every job is its run (`guarded_eq`), so that none of
this ever happens, whatever the counts and whatever the lengths; and what comes out is as long as
`Job.Lists` says.
-/

namespace SketchLayout

/-- What a machine would do instead of what is meant. -/
inductive Fault where
  /-- a length that is no whole number, or beyond every word, taken for a count -/
  | inexact
  /-- one less than zero -/
  | underflow
  /-- a product that no word holds -/
  | overflow
  /-- more positions in one list than the limit -/
  | oversized
  deriving DecidableEq, Repr

/-- A run on a machine. A refused request is an answer and not a fault. -/
abbrev Guarded (α β : Type) : Type := ExceptT (LayoutError α) (Except Fault) β

variable {α : Type}

/-! ## Steps -/

namespace Guarded

variable {β γ : Type}

/-- Whatever a run does, without a fault. -/
def ofRun (x : Except (LayoutError α) β) : Guarded α β := ExceptT.mk (.ok x)

def fault (f : Fault) : Guarded α β := ExceptT.mk (.error f)

/-- A guarded run stays without a fault as long as it goes on without one after each answer. -/
theorem ofRun_bind {x : Except (LayoutError α) β} {f : β → Guarded α γ} {g : β → Except (LayoutError α) γ}
    (h : ∀ b, x = .ok b → f b = ofRun (g b)) : (ofRun x >>= f) = ofRun (x >>= g) := by
  cases x with
  | error e => rfl
  | ok b => exact h b rfl

def pred (n : Nat) : Guarded α Nat := if n = 0 then fault .underflow else pure (n - 1)

/-- The product of two words. -/
def mul (m n : Nat) : Guarded α Nat := if CountLiteral.bound ≤ m * n then fault .overflow else pure (m * n)

/-- The word that a length is. -/
def toCount (q : Rat) : Guarded α Nat :=
  let n := q.floor.toNat
  if (n : Rat) = q ∧ n < CountLiteral.bound then pure n else fault .inexact

/-- The list of `n` positions along an axis. -/
def tabulate (n : Nat) (f : Nat → β) : Guarded α (List β) :=
  if positionLimit < n then fault .oversized else pure ((List.range n).map f)

theorem pred_eq {n : Nat} (h : n ≠ 0) : (pred n : Guarded α Nat) = pure (n - 1) := if_neg h

theorem mul_eq {m n : Nat} (hm : m ≤ positionLimit) (hn : n ≤ positionLimit) :
    (mul m n : Guarded α Nat) = pure (m * n) := by
  have hmn : m * n ≤ positionLimit * positionLimit := Nat.mul_le_mul hm hn
  have hword : positionLimit * positionLimit < CountLiteral.bound := by decide
  exact if_neg (by omega)

theorem toCount_natCast {n : Nat} (h : n ≤ positionLimit) : (toCount (n : Rat) : Guarded α Nat) = pure n := by
  have hfloor : (n : Rat).floor.toNat = n := by
    rw [show (n : Rat) = ((n : Int) : Rat) from rfl, Rat.floor_intCast]
    rfl
  have hword : positionLimit < CountLiteral.bound := by decide
  unfold toCount
  simp only [hfloor, true_and]
  exact if_pos (by omega)

theorem tabulate_eq {n : Nat} (h : n ≤ positionLimit) (f : Nat → β) :
    (tabulate n f : Guarded α (List β)) = pure ((List.range n).map f) := if_neg (by omega)

end Guarded

open Guarded

/-! ## Counts -/

namespace Reach

def floor : Reach → Reach
  | finite q => .finite q.floor
  | r => r

def ceil : Reach → Reach
  | finite q => .finite q.ceil
  | r => r

end Reach

/-- The count that a rounded length is, unless it is too large. What is no length, or below one, counts
for nothing. -/
def Guarded.countFrom (a : Axis) : Reach → Guarded α Nat
  | .undefined | .below => pure 0
  | .above => ofRun (.error (.countTooLarge a))
  | .finite q =>
    if q < 1 then pure 0
    else if (positionLimit : Rat) < q then ofRun (.error (.countTooLarge a))
    else toCount q

/-- A length that was rounded is a count, and counting it loses nothing. -/
theorem countFrom_intCast (a : Axis) (z : Int) :
    (countFrom a (.finite z) : Guarded α Nat) = ofRun (inferredCount a (some z.toNat)) := by
  show (if (z : Rat) < 1 then pure 0 else if (positionLimit : Rat) < z then _ else toCount z) = _
  by_cases h1 : z < 1
  · have hq : (z : Rat) < 1 := by exact_mod_cast h1
    have hn : z.toNat = 0 := by omega
    rw [if_pos hq, hn]
    rfl
  · have hq : ¬ (z : Rat) < 1 := by exact_mod_cast h1
    obtain ⟨n, rfl⟩ := Int.eq_ofNat_of_zero_le (by omega : 0 ≤ z)
    rw [if_neg hq]
    by_cases hlimit : positionLimit < n
    · have hlarge : (positionLimit : Rat) < ((n : Int) : Rat) := by exact_mod_cast hlimit
      simp only [hlarge, ↓reduceIte, inferredCount, checkedCount, Int.toNat_natCast, hlimit]
    · have hsmall : ¬ (positionLimit : Rat) < ((n : Int) : Rat) := by exact_mod_cast hlimit
      simp only [hsmall, ↓reduceIte, inferredCount, checkedCount, Int.toNat_natCast, hlimit]
      exact toCount_natCast (Nat.le_of_not_lt hlimit)

theorem countFrom_floor (a : Axis) (r : Reach) :
    (countFrom a r.floor : Guarded α Nat) = ofRun (inferredCount a r.fitting) := by
  cases r with
  | finite q => exact countFrom_intCast a q.floor
  | _ => rfl

theorem countFrom_ceil (a : Axis) (r : Reach) :
    (countFrom a r.ceil : Guarded α Nat) = ofRun (inferredCount a r.covering) := by
  cases r with
  | finite q => exact countFrom_intCast a q.ceil
  | _ => rfl

def Guarded.checkedTotal (nx ny : Nat) : Guarded α Nat := do
  let total ← mul nx ny
  if positionLimit < total then ofRun (.error (.tooManyPositions nx ny)) else pure total

theorem guarded_checkedTotal {nx ny : Nat} (hx : nx ≤ positionLimit) (hy : ny ≤ positionLimit) :
    (Guarded.checkedTotal nx ny : Guarded α Nat) = ofRun (SketchLayout.checkedTotal nx ny) := by
  unfold Guarded.checkedTotal SketchLayout.checkedTotal
  rw [mul_eq hx hy, pure_bind]
  split <;> rfl

variable [Scalar α]

/-! ## Grids -/

def GridAxis.guardedStep (a : Axis) (g : GridAxis α) (centered : Bool) : Guarded α (Step α) :=
  if g.count = 1 then pure ⟨Scalar.zero, Scalar.zero⟩
  else do
    let gaps : α := Scalar.ofNat (← pred g.count)
    match g.spacing, g.size with
    | some _, some _ => ofRun (.error (.spacingConflict a))
    | none, none => ofRun (.error (.spacingMissing a))
    | none, some size =>
      let extent := size.resolve centered
      return ⟨extent.size / gaps, extent.min⟩
    | some spacing, none => return ⟨spacing, if centered then Scalar.half (-spacing * gaps) else Scalar.zero⟩

theorem GridAxis.guardedStep_eq {g : GridAxis α} (hn : g.count ≠ 0) (a : Axis) (centered : Bool) :
    g.guardedStep a centered = ofRun (g.step a centered) := by
  obtain ⟨count, spacing, size⟩ := g
  unfold guardedStep step
  by_cases h1 : count = 1
  · simp only [h1, ↓reduceIte]
    rfl
  · simp only [h1, ↓reduceIte, pred_eq hn, pure_bind]
    cases spacing <;> cases size <;> rfl

def Step.guardedCoordinates (s : Step α) (count : Nat) : Guarded α (List α) :=
  tabulate count fun i => Scalar.ofNat i * s.step + s.offset

def Grid.guarded (g : Grid α) : Guarded α (List (Point α)) := do
  ofRun (g.x.checkedPositive .x)
  ofRun (g.y.checkedPositive .y)
  let countX ← ofRun (checkedCount .x g.x.count)
  let countY ← ofRun (checkedCount .y g.y.count)
  let _ ← Guarded.checkedTotal countX countY
  let flags ← ofRun (g.center.resolve .two)
  let stepX ← g.x.guardedStep .x flags.x
  let stepY ← g.y.guardedStep .y flags.y
  return pairs Point.mk (← stepX.guardedCoordinates countX) (← stepY.guardedCoordinates countY)

theorem Grid.guarded_eq (g : Grid α) : g.guarded = ofRun g.points := by
  unfold guarded points
  refine ofRun_bind fun _ hpx => ofRun_bind fun _ hpy => ofRun_bind fun nx hnx => ofRun_bind fun ny hny => ?_
  have hx := (checkedCount_eq_ok.1 hnx).2 ▸ (checkedCount_eq_ok.1 hnx).1
  have hy := (checkedCount_eq_ok.1 hny).2 ▸ (checkedCount_eq_ok.1 hny).1
  rw [guarded_checkedTotal hx hy]
  refine ofRun_bind fun _ _ => ofRun_bind fun flags _ => ?_
  rw [GridAxis.guardedStep_eq (GridAxis.checkedPositive_eq_ok.1 hpx)]
  refine ofRun_bind fun sx _ => ?_
  rw [GridAxis.guardedStep_eq (GridAxis.checkedPositive_eq_ok.1 hpy)]
  refine ofRun_bind fun sy _ => ?_
  rw [Step.guardedCoordinates, Step.guardedCoordinates, tabulate_eq hx, tabulate_eq hy, pure_bind, pure_bind]
  rfl

/-! ## Distributed tiles -/

namespace DistributeAxis

def guardedCount (a : Axis) (d : DistributeAxis α) (extent : Interval α) : Guarded α Nat :=
  match d.count with
  | some count => ofRun (checkedCount a count)
  | none => countFrom a (Scalar.reach ((extent.size + d.minSpacing) / (d.tileSize + d.minSpacing))).floor

theorem guardedCount_eq (a : Axis) (d : DistributeAxis α) (extent : Interval α) :
    d.guardedCount a extent = ofRun (d.countIn a extent) := by
  obtain ⟨size, tileSize, count, minSpacing⟩ := d
  cases count with
  | some n => rfl
  | none => exact countFrom_floor a _

def guardedPositions (d : DistributeAxis α) (anchor : Anchor) (extent : Interval α) (count : Nat) :
    Guarded α (List α) :=
  match count with
  | 0 => pure []
  | 1 =>
    let offset := match anchor with
      | .center => Scalar.zero
      | .origin => Scalar.half (-d.tileSize)
    tabulate 1 fun _ => extent.center + offset
  | count => do
    let delta := (extent.size - d.tileSize) / Scalar.ofNat (← pred count)
    let offset := match anchor with
      | .center => Scalar.half d.tileSize
      | .origin => Scalar.zero
    tabulate count fun k => extent.min + Scalar.ofNat k * delta + offset

theorem guardedPositions_eq (d : DistributeAxis α) (anchor : Anchor) (extent : Interval α) :
    ∀ {n : Nat}, n ≤ positionLimit → d.guardedPositions anchor extent n = pure (d.positions anchor extent n)
  | 0, _ | 1, _ => rfl
  | n + 2, h => by
    show (pred (n + 2) >>= fun gaps => tabulate (n + 2) _) = _
    rw [pred_eq (by omega), pure_bind, tabulate_eq h]
    rfl

end DistributeAxis

/-- The positions of distributed tiles. The lists of both axes are made before they are multiplied. -/
def Distribute.guarded (d : Distribute α) : Guarded α (List (Point α)) := do
  ofRun (d.x.checkedTile .x)
  ofRun (d.y.checkedTile .y)
  let region ← ofRun (Dimension.resolveRect d.x.size d.y.size d.center)
  let xs ← d.x.guardedCount .x region.x >>= d.x.guardedPositions d.anchor region.x
  let ys ← d.y.guardedCount .y region.y >>= d.y.guardedPositions d.anchor region.y
  let _ ← Guarded.checkedTotal xs.length ys.length
  return pairs Point.mk xs ys

theorem Distribute.guarded_eq (d : Distribute α) : d.guarded = ofRun d.points := by
  have hlimit : ∀ {a : Axis} {d : DistributeAxis α} {e : Interval α} {n : Nat}, d.countIn a e = .ok n →
      n ≤ positionLimit := by
    intro a d e n h
    rw [DistributeAxis.countIn_eq, inferredCount_eq_ok] at h
    exact h.2
  unfold guarded
  rw [points_eq]
  refine ofRun_bind fun _ _ => ofRun_bind fun _ _ => ofRun_bind fun region _ => ?_
  rw [DistributeAxis.guardedCount_eq, bind_assoc]
  refine ofRun_bind fun nx hnx => ?_
  rw [DistributeAxis.guardedPositions_eq _ _ _ (hlimit hnx), pure_bind, DistributeAxis.guardedCount_eq, bind_assoc]
  refine ofRun_bind fun ny hny => ?_
  rw [DistributeAxis.guardedPositions_eq _ _ _ (hlimit hny), pure_bind, DistributeAxis.length_positions,
    DistributeAxis.length_positions, guarded_checkedTotal (hlimit hnx) (hlimit hny)]
  exact ofRun_bind fun _ _ => rfl

/-! ## Stretched tiles -/

namespace StretchAxis

def guardedFewest (a : Axis) (s : StretchAxis α) (extent tile : α) : Guarded α (Fill α) := do
  return .derived (← countFrom a (Scalar.reach (s.ratio extent tile)).ceil) extent s.spacing

def guardedMost (a : Axis) (s : StretchAxis α) (extent tile : α) : Guarded α (Fill α) := do
  return .derived (← countFrom a (Scalar.reach (s.ratio extent tile)).floor) extent s.spacing

def guardedFill (a : Axis) (s : StretchAxis α) (extent : α) : Guarded α (Fill α) :=
  match s.count with
  | some count => do return .stretched (← ofRun (checkedCount a count)) extent s.spacing
  | none =>
    match s.minTile, s.maxTile with
    | none, none => ofRun (.error (.stretchUnconstrained a))
    | none, some high => s.guardedFewest a extent high
    | some low, high =>
      if Scalar.lt extent low then pure .empty
      else
        match high with
        | some high => s.guardedFewest a extent high
        | none => s.guardedMost a extent low

theorem guardedFewest_eq (a : Axis) (s : StretchAxis α) (extent tile : α) :
    s.guardedFewest a extent tile = ofRun (s.fewest a extent tile) := by
  unfold guardedFewest fewest
  rw [countFrom_ceil]
  exact ofRun_bind fun _ _ => rfl

theorem guardedMost_eq (a : Axis) (s : StretchAxis α) (extent tile : α) :
    s.guardedMost a extent tile = ofRun (s.most a extent tile) := by
  unfold guardedMost most
  rw [countFrom_floor]
  exact ofRun_bind fun _ _ => rfl

theorem guardedFill_eq (a : Axis) (s : StretchAxis α) (extent : α) :
    s.guardedFill a extent = ofRun (s.fill a extent) := by
  obtain ⟨size, count, minTile, maxTile, spacing⟩ := s
  cases count with
  | some n => exact ofRun_bind fun _ _ => rfl
  | none =>
    cases minTile with
    | none =>
      cases maxTile with
      | none => rfl
      | some high => exact guardedFewest_eq a _ extent high
    | some low =>
      unfold guardedFill fill
      simp only
      split
      · rfl
      · cases maxTile with
        | none => exact guardedMost_eq a _ extent low
        | some high => exact guardedFewest_eq a _ extent high

end StretchAxis

def Stretch.guarded (s : Stretch α) : Guarded α (List (Rect α)) := do
  let region ← ofRun (Dimension.resolveRect s.x.size s.y.size s.center)
  let fillX ← s.x.guardedFill .x region.x.size
  if fillX.count = 0 then return []
  let fillY ← s.y.guardedFill .y region.y.size
  if fillY.count = 0 then return []
  let corners ← (s.origins fillX fillY).guarded
  return corners.map fun p => .new p.x (p.x + fillX.tile) p.y (p.y + fillY.tile)

theorem Stretch.guarded_eq (s : Stretch α) : s.guarded = ofRun s.tiles := by
  unfold guarded tiles
  simp only [StretchAxis.guardedFill_eq, Distribute.guarded_eq]
  refine ofRun_bind fun region _ => ofRun_bind fun fx _ => ?_
  split
  · rfl
  · refine ofRun_bind fun fy _ => ?_
    split
    · rfl
    · exact ofRun_bind fun _ _ => rfl

/-! ## Jobs -/

namespace Job

/-- Carries out a request. Resolving dimensions and outlining a rectangle count nothing. -/
def guarded : Job α → Guarded α (Output α)
  | dims d => ofRun ((Dimension.resolveList d.specs d.center).map .intervals)
  | rect o => ofRun (o.points.map .points)
  | grid g => do return .points (← g.guarded)
  | distribute d => do return .points (← d.guarded)
  | stretch s => do return .tiles (← s.guarded)

theorem guarded_eq (j : Job α) : j.guarded = ofRun j.run := by
  have hmap : ∀ {β γ : Type} (f : β → γ) (x : Except (LayoutError α) β),
      (ofRun x >>= fun b => pure (f b)) = (ofRun (x.map f) : Guarded α γ) := by
    intro β γ f x
    cases x <;> rfl
  cases j with
  | dims d => rfl
  | rect o => rfl
  | grid g => exact (congrArg (· >>= _) g.guarded_eq).trans (hmap _ _)
  | distribute d => exact (congrArg (· >>= _) d.guarded_eq).trans (hmap _ _)
  | stretch s => exact (congrArg (· >>= _) s.guarded_eq).trans (hmap _ _)

/-- How many items a request lists: three intervals at most, four corners, and otherwise the product of
the counts of its axes, given or inferred. A stretch has no tiles once X takes none. -/
def Lists : Job α → Nat → Prop
  | dims d, n => n = min 3 d.specs.length
  | rect _, n => n = 4
  | grid g, n => n = g.x.count * g.y.count ∧ 1 ≤ n
  | distribute d, n => ∃ region nx ny, Dimension.resolveRect d.x.size d.y.size d.center = .ok region ∧
      d.x.countIn .x region.x = .ok nx ∧ d.y.countIn .y region.y = .ok ny ∧ n = nx * ny
  | stretch s, n => ∃ region fx, s.SettlesX region fx ∧
      (fx.count = 0 ∧ n = 0 ∨ ∃ fy, s.y.fill .y region.y.size = .ok fy ∧ n = fx.count * fy.count)

theorem lists_of_run {j : Job α} {output : Output α} (h : j.run = .ok output) :
    output.size ≤ positionLimit ∧ j.Lists output.size := by
  have hmap : ∀ {β : Type} {f : β → Output α} {x : Except (LayoutError α) β}, x.map f = .ok output →
      ∃ b, x = .ok b ∧ f b = output := by
    intro β f x hx
    cases x with
    | error e => cases hx
    | ok b => exact ⟨b, rfl, Except.ok.inj hx⟩
  cases j with
  | dims d =>
    obtain ⟨items, hitems, rfl⟩ := hmap h
    obtain ⟨flags, -, hzip⟩ := bind_eq_ok.1 hitems
    have hsize : items.length = min 3 d.specs.length := by
      rw [← pure_eq_ok.1 hzip, List.length_zipWith, Nat.min_comm]
      rfl
    have hlimit : 3 ≤ positionLimit := by decide
    exact ⟨(hsize.trans_le (Nat.min_le_left _ _)).trans hlimit, hsize⟩
  | rect o =>
    obtain ⟨ps, hps, rfl⟩ := hmap h
    obtain ⟨rect, -, hcorners⟩ := bind_eq_ok.1 hps
    have hsize : ps.length = 4 := by rw [← pure_eq_ok.1 hcorners]; rfl
    have hlimit : 4 ≤ positionLimit := by decide
    exact ⟨hsize.trans_le hlimit, hsize⟩
  | grid g =>
    obtain ⟨ps, hps, rfl⟩ := hmap h
    obtain ⟨⟨hx, hy⟩, -, htotal, -, sx, sy, -, -, -, rfl⟩ := Grid.points_eq_ok.1 hps
    have hsize : (Output.points (pairs Point.mk (sx.coordinates g.x.count) (sy.coordinates g.y.count))).size =
        g.x.count * g.y.count := by simp [Output.size]
    rw [hsize]
    exact ⟨htotal, rfl, Nat.mul_pos (Nat.pos_of_ne_zero hx) (Nat.pos_of_ne_zero hy)⟩
  | distribute d =>
    obtain ⟨ps, hps, rfl⟩ := hmap h
    obtain ⟨-, region, nx, ny, hr, hnx, hny, htotal, rfl⟩ := Distribute.points_eq_ok.1 hps
    simp only [Output.size, length_pairs, DistributeAxis.length_positions]
    exact ⟨htotal, region, nx, ny, hr, hnx, hny, rfl⟩
  | stretch s =>
    obtain ⟨ts, hts, rfl⟩ := hmap h
    obtain ⟨region, fx, hx, ⟨h0, rfl⟩ | ⟨fy, hfy, ⟨h0, rfl⟩ | ⟨hf, rfl⟩⟩⟩ := Stretch.tiles_cases hts
    · exact ⟨Nat.zero_le _, region, fx, hx, .inl ⟨h0, rfl⟩⟩
    · refine ⟨Nat.zero_le _, region, fx, hx, .inr ⟨fy, hfy, ?_⟩⟩
      rw [h0, Nat.mul_zero]
      rfl
    · have hsize : (Output.tiles (pairs Rect.mk (s.x.spans fx region.x) (s.y.spans fy region.y))).size =
          fx.count * fy.count := by simp [Output.size]
      rw [hsize]
      exact ⟨hf.total, region, fx, hx, .inr ⟨fy, hfy, rfl⟩⟩

/-- **No job grows without bound or miscounts.** Whatever the counts and the lengths, a machine carries
the job out without a fault and comes to what the job comes to; and if that is an output, it is within
the limit and has as many items as the counts say. -/
theorem bounded_without_fault (j : Job α) :
    j.guarded.run = .ok j.run ∧
      ∀ output, j.run = .ok output → output.size ≤ positionLimit ∧ j.Lists output.size :=
  ⟨j.guarded_eq, fun _ => lists_of_run⟩

end Job

/-- As many columns as fit by two rows of tiles whose size is no number, never closer than infinity. -/
def nanTileRows : Job Float := .distribute
  { x := { size := .size 10.5, tileSize := 2, minSpacing := 1 }
    y := { size := .range 5 (-1), tileSize := 0 / 0, count := some 2, minSpacing := 1 / 0 }
    center := .axes "y" }

theorem nan_tile_rows_bounded :
    nanTileRows.guarded.run = .ok nanTileRows.run ∧
      ∃ output, nanTileRows.run = .ok output ∧ output.size = 6 ∧ output.size ≤ positionLimit ∧
        nanTileRows.Lists output.size := by
  obtain ⟨hguarded, hlists⟩ := Job.bounded_without_fault nanTileRows
  have hsize : nanTileRows.run.toOption.map Output.size = some 6 := by decide +kernel
  cases hrun : nanTileRows.run with
  | error e => rw [hrun] at hsize; cases hsize
  | ok output =>
    rw [hrun] at hsize hguarded
    exact ⟨hguarded, output, rfl, Option.some.inj hsize, hlists output hrun⟩

end SketchLayout
