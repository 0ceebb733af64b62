import SketchLayout.Proofs.Placement
import SketchLayout.Record.Geometry

/-!
# Runs of moves

However an interval comes about, its bounds are put in order (`Interval.Built.exists_new`). Along an axis a
move keeps them in order and carries the middle by its offset there (`Interval.Carried.along`): growing
and shrinking carry nothing, not even past the middle, where the interval turns over. A rectangle and a
box take a move axis by axis, so a run of moves does along every axis what it does to one interval
(`Rect.foldl_apply`, `Box.foldl_apply`), and a move along one axis leaves the others as they are.
-/

namespace SketchLayout

variable {α : Type} [Scalar α]

/-! ## Ways to come about -/

/-- The ways to get an interval: from two bounds, or from a document, however lengths are read there. -/
inductive Interval.Built : Interval α → Prop
  | new (a b : α) : Built (.new a b)
  | read {length? : Document → Option α} {dialect : Dialect} {d : Document} {i : Interval α}
      (h : Interval.read? length? dialect d = some i) : Built i

/-- The ways to get a rectangle: from two bounds per axis, from two intervals or from a document. -/
inductive Rect.Built : Rect α → Prop
  | new (x₁ x₂ y₁ y₂ : α) : Built (.new x₁ x₂ y₁ y₂)
  | extents {x y : Interval α} (hx : x.Built) (hy : y.Built) : Built ⟨x, y⟩
  | read {length? : Document → Option α} {dialect : Dialect} {d : Document} {r : Rect α}
      (h : Rect.read? length? dialect d = some r) : Built r

/-- The ways to get a box: from two bounds per axis, from three intervals or from a document. -/
inductive Box.Built : Box α → Prop
  | new (x₁ x₂ y₁ y₂ z₁ z₂ : α) : Built (.new x₁ x₂ y₁ y₂ z₁ z₂)
  | extents {x y z : Interval α} (hx : x.Built) (hy : y.Built) (hz : z.Built) : Built ⟨x, y, z⟩
  | read {length? : Document → Option α} {dialect : Dialect} {d : Document} {b : Box α}
      (h : Box.read? length? dialect d = some b) : Built b

/-- A document gives the interval between two of its lengths. -/
theorem Interval.exists_new_of_read {length? : Document → Option α} {dialect : Dialect} {d : Document}
    {i : Interval α} (h : read? length? dialect d = some i) : ∃ a b, i = .new a b := by
  unfold read? at h
  split at h
  · split at h
    · simp only [Option.bind_eq_bind, Option.bind_eq_some_iff, Option.pure_def, Option.some.injEq] at h
      obtain ⟨a, -, b, -, rfl⟩ := h
      exact ⟨a, b, rfl⟩
    · cases h
  · cases h

theorem Interval.Built.exists_new {i : Interval α} (h : i.Built) : ∃ a b, i = .new a b := by
  cases h with
  | new a b => exact ⟨a, b, rfl⟩
  | read h => exact exists_new_of_read h

theorem Column.required_eq_some {β : Type} {read : Document → Option β} {column : Option Document} {b : β}
    (h : required read column = some b) : ∃ d, read d = some b := by
  cases column with
  | none => cases h
  | some d => exact ⟨d, h⟩

theorem Rect.Built.sides {r : Rect α} (h : r.Built) : r.x.Built ∧ r.y.Built := by
  cases h with
  | new x₁ x₂ y₁ y₂ => exact ⟨.new x₁ x₂, .new y₁ y₂⟩
  | extents hx hy => exact ⟨hx, hy⟩
  | read h =>
    simp only [Rect.read?, Option.bind_eq_bind, Option.bind_eq_some_iff] at h
    obtain ⟨columns, -, h⟩ := h
    split at h
    · simp only [Option.bind_eq_some_iff, Option.pure_def, Option.some.injEq] at h
      obtain ⟨x, hx, y, hy, rfl⟩ := h
      obtain ⟨dx, hdx⟩ := Column.required_eq_some hx
      obtain ⟨dy, hdy⟩ := Column.required_eq_some hy
      exact ⟨.read hdx, .read hdy⟩
    · cases h

theorem Box.Built.sides {b : Box α} (h : b.Built) : b.x.Built ∧ b.y.Built ∧ b.z.Built := by
  cases h with
  | new x₁ x₂ y₁ y₂ z₁ z₂ => exact ⟨.new x₁ x₂, .new y₁ y₂, .new z₁ z₂⟩
  | extents hx hy hz => exact ⟨hx, hy, hz⟩
  | read h =>
    simp only [Box.read?, Option.bind_eq_bind, Option.bind_eq_some_iff] at h
    obtain ⟨columns, -, h⟩ := h
    split at h
    · simp only [Option.bind_eq_some_iff, Option.pure_def, Option.some.injEq] at h
      obtain ⟨x, hx, y, hy, z, hz, rfl⟩ := h
      obtain ⟨dx, hdx⟩ := Column.required_eq_some hx
      obtain ⟨dy, hdy⟩ := Column.required_eq_some hy
      obtain ⟨dz, hdz⟩ := Column.required_eq_some hz
      exact ⟨.read hdx, .read hdy, .read hdz⟩
    · cases h

/-! ## Runs, axis by axis -/

namespace Move

/-- How far a move carries what lies along an axis. Growing and shrinking carry nothing. -/
def offset : Move α → Axis → α
  | .expand .., _ | .shrink .., _ => Scalar.zero
  | .translate x _ _, .x => x
  | .translate _ y _, .y => y
  | .translate _ _ z, .z => z

/-- Whether a move grows or shrinks along one axis alone. -/
def Within (move : Move α) (a : Axis) : Prop :=
  ∃ amount, move = .expand (some a) amount ∨ move = .shrink (some a) amount

/-- The other axes stay as they are. -/
theorem Within.along_eq {move : Move α} {a b : Axis} (h : move.Within a) (hab : a ≠ b) (i : Interval α) :
    move.along b i = i := by
  have hnot : (b == a) = false := by simpa using fun hba => hab hba.symm
  obtain ⟨amount, rfl | rfl⟩ := h <;> simp [along, Axis.within, hnot]

end Move

/-- An interval of an axis after a run of moves. -/
def Interval.after (a : Axis) (i : Interval α) (moves : List (Move α)) : Interval α :=
  moves.foldl (fun j move => move.along a j) i

theorem Rect.foldl_apply (r : Rect α) (moves : List (Move α)) :
    moves.foldl Rect.apply r = ⟨r.x.after .x moves, r.y.after .y moves⟩ := by
  induction moves generalizing r with
  | nil => rfl
  | cons move moves ih => exact ih (r.apply move)

theorem Box.foldl_apply (b : Box α) (moves : List (Move α)) :
    moves.foldl Box.apply b = ⟨b.x.after .x moves, b.y.after .y moves, b.z.after .z moves⟩ := by
  induction moves generalizing b with
  | nil => rfl
  | cons move moves ih => exact ih (b.apply move)

/-! ## Order and middle, exactly -/

/-- How far a run of moves carries what lies along an axis. -/
def Move.total (a : Axis) (moves : List (Move Rat)) : Rat := (moves.map (·.offset a)).sum

/-- `j` has its bounds in order, and its middle lies `offset` above that of `i`. -/
structure Interval.Carried (i j : Interval Rat) (offset : Rat) : Prop where
  ordered : j.min ≤ j.max
  size_nonneg : 0 ≤ j.size
  center : j.center = i.center + offset

namespace Interval

variable {i j : Interval Rat} {offset : Rat}

theorem carried_of_ordered (hj : j.min ≤ j.max) (hc : j.center = i.center + offset) : i.Carried j offset where
  ordered := hj
  size_nonneg := by rw [size_rat]; linarith
  center := hc

/-- The middle does not depend on the order of the bounds. -/
theorem center_new (a b : Rat) : (Interval.new a b).center = (a + b) / 2 := by
  rw [center_rat]
  unfold Interval.new
  split
  · ring
  · rfl

theorem center_expand (i : Interval Rat) (amount : Rat) : (i.expand amount).center = i.center := by
  rw [expand, center_new, center_rat]
  ring

theorem center_translate_rat (i : Interval Rat) (d : Rat) : (i.translate d).center = i.center + d := by
  rw [center_rat, center_rat]
  simp only [translate]
  ring

theorem Built.carried (h : i.Built) : i.Carried i 0 := by
  obtain ⟨a, b, rfl⟩ := h.exists_new
  exact carried_of_ordered (new_ordered a b) (add_zero _).symm

/-- Growing, by whatever amount, puts the bounds in order and leaves the middle. -/
theorem Carried.expand (h : i.Carried j offset) (amount : Rat) : i.Carried (j.expand amount) offset :=
  carried_of_ordered (new_ordered _ _) ((center_expand j amount).trans h.center)

theorem Carried.translate (h : i.Carried j offset) (d : Rat) : i.Carried (j.translate d) (offset + d) := by
  refine carried_of_ordered ?_ ?_
  · have := h.ordered
    simp only [Interval.translate]
    linarith
  · rw [center_translate_rat, h.center, add_assoc]

/-- **One move** carries an interval by its offset along the axis. -/
theorem Carried.along (h : i.Carried j offset) (a : Axis) (move : Move Rat) :
    i.Carried (move.along a j) (offset + move.offset a) := by
  cases move with
  | expand only amount =>
    rw [Move.offset, zero_rat, add_zero, Move.along]
    split
    · exact h.expand amount
    · exact h
  | shrink only amount =>
    rw [Move.offset, zero_rat, add_zero, Move.along]
    split
    · exact h.expand (-amount)
    · exact h
  | translate x y z =>
    cases a with
    | x => exact h.translate x
    | y => exact h.translate y
    | z => exact h.translate z

/-- **A run of moves** carries an interval by what its moves add up to along the axis. -/
theorem Carried.after (a : Axis) (moves : List (Move Rat)) (h : i.Carried j offset) :
    i.Carried (j.after a moves) (offset + Move.total a moves) := by
  induction moves generalizing j offset with
  | nil => simpa [Move.total, Interval.after] using h
  | cons move moves ih =>
    have hrest := ih (h.along a move)
    rwa [add_assoc] at hrest

theorem Built.after (h : i.Built) (a : Axis) (moves : List (Move Rat)) :
    i.Carried (i.after a moves) (Move.total a moves) := by
  have hrun := h.carried.after a moves
  rwa [zero_add] at hrun

end Interval

/-- **Intervals stay in order and keep track of their middle.** Whatever an interval, a rectangle or a box
came from, after any run of moves each axis has its bounds in order and its middle carried by what was
added along it. A move of one axis leaves the other axes as they are. -/
theorem moves_keep_order_and_middle (moves : List (Move Rat)) :
    (∀ i : Interval Rat, i.Built → i.Carried (moves.foldl Interval.apply i) (Move.total .x moves)) ∧
    (∀ r : Rect Rat, r.Built →
      r.x.Carried (moves.foldl Rect.apply r).x (Move.total .x moves) ∧
        r.y.Carried (moves.foldl Rect.apply r).y (Move.total .y moves)) ∧
    (∀ b : Box Rat, b.Built →
      b.x.Carried (moves.foldl Box.apply b).x (Move.total .x moves) ∧
        b.y.Carried (moves.foldl Box.apply b).y (Move.total .y moves) ∧
        b.z.Carried (moves.foldl Box.apply b).z (Move.total .z moves)) ∧
    ∀ (a : Axis) (move : Move Rat), move.Within a →
      (∀ r : Rect Rat, (a ≠ .x → (r.apply move).x = r.x) ∧ (a ≠ .y → (r.apply move).y = r.y)) ∧
        ∀ b : Box Rat, (a ≠ .x → (b.apply move).x = b.x) ∧ (a ≠ .y → (b.apply move).y = b.y) ∧
          (a ≠ .z → (b.apply move).z = b.z) := by
  refine ⟨fun i hi => hi.after .x moves, fun r hr => ?_, fun b hb => ?_, fun a move hmove => ⟨fun r => ?_, fun b => ?_⟩⟩
  · obtain ⟨hx, hy⟩ := hr.sides
    rw [Rect.foldl_apply]
    exact ⟨hx.after .x moves, hy.after .y moves⟩
  · obtain ⟨hx, hy, hz⟩ := hb.sides
    rw [Box.foldl_apply]
    exact ⟨hx.after .x moves, hy.after .y moves, hz.after .z moves⟩
  · exact ⟨fun h => hmove.along_eq h r.x, fun h => hmove.along_eq h r.y⟩
  · exact ⟨fun h => hmove.along_eq h b.x, fun h => hmove.along_eq h b.y, fun h => hmove.along_eq h b.z⟩

def Document.whole? : Document → Option Rat
  | .int n => some n
  | _ => none

/-- A rectangle that is kept as a document, its bounds along X upside down. -/
def lowRectRecord : Document := .object [("y", .list [.int 0, .int 1]), ("x", .list [.int 5, .int (-3)])]

def lowRect : Rect Rat := ⟨⟨-3, 5⟩, ⟨0, 1⟩⟩

/-- Shrunk past both middles, moved, and turned over along Y once more. -/
def turns : List (Move Rat) := [.shrink none 10, .translate 1 2 3, .expand (some .y) (-20)]

theorem turned_rect_stays_in_order :
    (lowRect.Built ∧ Move.Within (.expand (some .y) (-20 : Rat)) .y) ∧
      (lowRect.x.Carried (turns.foldl Rect.apply lowRect).x 1 ∧ lowRect.y.Carried (turns.foldl Rect.apply lowRect).y 2) ∧
      (lowRect.apply (.expand (some .y) (-20))).x = lowRect.x := by
  have hbuilt : lowRect.Built := .read (show Rect.read? Document.whole? .json lowRectRecord = some lowRect by decide +kernel)
  have hwithin : Move.Within (.expand (some .y) (-20 : Rat)) .y := ⟨-20, .inl rfl⟩
  have hx : Move.total .x turns = 1 := by decide +kernel
  have hy : Move.total .y turns = 2 := by decide +kernel
  obtain ⟨-, hrects, -, hothers⟩ := moves_keep_order_and_middle turns
  have hrun := hrects lowRect hbuilt
  rw [hx, hy] at hrun
  exact ⟨⟨hbuilt, hwithin⟩, hrun, ((hothers .y _ hwithin).1 lowRect).1 (by decide)⟩

end SketchLayout
