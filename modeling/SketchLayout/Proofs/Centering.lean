import SketchLayout.Proofs.Run

/-!
# Reading centering requests

A request fits a setting when it is a flag, or a word that has a letter and only letters of the
setting's axes. Reading succeeds for the requests that fit, and then centers those axes of the setting
that the request names (`Center.resolve_eq_ok`). The plane is a part of space: what fits the plane fits
space and centers the same axes of the plane there (`Center.Fits.three`, `Center.get_eq_of_resolve`),
and what fits space alone is a word with a Z (`Center.exists_z`).
-/

namespace SketchLayout

/-! ## Flags and letters -/

theorem CenterFlags.get_foldl_set (b : Axis) :
    ∀ (axes : List Axis) (flags : CenterFlags), (axes.foldl set flags).get b = (flags.get b || decide (b ∈ axes))
  | [], flags => by simp
  | a :: axes, flags => by
    rw [List.foldl_cons, get_foldl_set b axes, get_set]
    by_cases hab : a = b
    · simp [hab]
    · have hba : b ≠ a := fun h => hab h.symm
      simp [hab, hba]

/-- The flags of some axes are on for just these. -/
theorem CenterFlags.get_ofAxes (axes : List Axis) (b : Axis) : (ofAxes axes).get b = true ↔ b ∈ axes := by
  rw [ofAxes, get_foldl_set]
  cases b <;> simp [none, get]

theorem CenterFlags.ext_get {flags flags' : CenterFlags} (h : ∀ a, flags.get a = true ↔ flags'.get a = true) :
    flags = flags' := by
  have hget : ∀ a, flags.get a = flags'.get a := fun a => Bool.eq_iff_iff.2 (h a)
  obtain ⟨x, y, z⟩ := flags
  obtain ⟨x', y', z'⟩ := flags'
  have hx : x = x' := hget .x
  have hy : y = y' := hget .y
  have hz : z = z' := hget .z
  rw [hx, hy, hz]

/-- The letter of an axis has two forms. -/
theorem Axis.toUpper_eq_letter {c : Char} {a : Axis} : c.toUpper = a.letter ↔ c = a.letter ∨ c = a.letter.toLower := by
  constructor
  · intro h
    unfold Char.toUpper at h
    split at h
    · cases a
      all_goals
        simp only [Axis.letter, Char.ext_iff] at h ⊢
        grind
    · exact .inl h
  · rintro (rfl | rfl)
    · cases a <;> rfl
    · cases a <;> rfl

/-! ## What a request stands for -/

namespace Center

/-- Whether a request asks to center an axis. -/
def Names (c : Center) (a : Axis) : Prop :=
  match c with
  | .flag on => on = true
  | .axes letters => ∃ l ∈ letters.toList, l.toUpper = a.letter

/-- Whether a request can be read in a setting: a word has a letter, and every one names an axis there. -/
def Fits (c : Center) (d : Dimensionality) : Prop :=
  match c with
  | .flag _ => True
  | .axes letters => letters.toList ≠ [] ∧ ∀ l ∈ letters.toList, ∃ a ∈ d.axes, l.toUpper = a.letter

theorem resolve_axes_eq_ok {α : Type} {letters : String} {d : Dimensionality} {flags : CenterFlags} :
    ((Center.axes letters).resolve d : Except (LayoutError α) CenterFlags) = .ok flags ↔
      (Center.axes letters).Fits d ∧
        flags = CenterFlags.ofAxes (d.axes.filter fun a => (capitals letters).contains a.letter) := by
  have hfits : ((capitals letters).isEmpty || !(capitals letters).all d.letters.contains) = false ↔
      (Center.axes letters).Fits d := by
    have hletter : ∀ l a, (Axis.letter a = Char.toUpper l) = (l.toUpper = a.letter) := fun _ _ => propext eq_comm
    simp [Fits, capitals, Dimensionality.letters, hletter]
  simp only [resolve]
  split
  · rename_i h
    simp only [reduceCtorEq, false_iff, not_and]
    intro hword
    rw [hfits.2 hword] at h
    cases h
  · rename_i h
    rw [Except.ok.injEq, and_iff_right (hfits.1 (by simpa using h))]
    exact eq_comm

/-- **Reading a request**: it succeeds for those that fit, and centers what they name in the setting. -/
theorem resolve_eq_ok {α : Type} {c : Center} {d : Dimensionality} {flags : CenterFlags} :
    (c.resolve d : Except (LayoutError α) CenterFlags) = .ok flags ↔
      c.Fits d ∧ ∀ a, flags.get a = true ↔ a ∈ d.axes ∧ c.Names a := by
  -- flags that are on for the same axes are the same flags
  have hsame : ∀ {axes : List Axis}, (∀ a, a ∈ axes ↔ a ∈ d.axes ∧ c.Names a) →
      (flags = CenterFlags.ofAxes axes ↔ ∀ a, flags.get a = true ↔ a ∈ d.axes ∧ c.Names a) := by
    intro axes haxes
    constructor
    · rintro rfl a
      rw [CenterFlags.get_ofAxes, haxes]
    · intro h
      refine CenterFlags.ext_get fun a => ?_
      rw [h, CenterFlags.get_ofAxes, haxes]
  cases c with
  | flag on =>
    have hresolve : ((Center.flag on).resolve d : Except (LayoutError α) CenterFlags) =
        .ok (CenterFlags.ofAxes (if on then d.axes else [])) := by
      cases on <;> rfl
    rw [hresolve, Except.ok.injEq, eq_comm, hsame (by cases on <;> simp [Names])]
    simp [Fits]
  | axes letters =>
    rw [resolve_axes_eq_ok, hsame]
    intro a
    simp [Names, capitals]

theorem isOk_resolve (α : Type) {c : Center} {d : Dimensionality} :
    (c.resolve d : Except (LayoutError α) CenterFlags).isOk ↔ c.Fits d := by
  rw [isOk_iff]
  constructor
  · rintro ⟨flags, h⟩
    exact (resolve_eq_ok.1 h).1
  · intro h
    cases c with
    | flag on => cases on <;> exact ⟨_, rfl⟩
    | axes letters => exact ⟨_, resolve_axes_eq_ok.2 ⟨h, rfl⟩⟩

/-- A request that does not fit is a word, and it is refused as it stands. -/
theorem resolve_cases (α : Type) (c : Center) (d : Dimensionality) :
    (∃ letters, c = .axes letters ∧
      (c.resolve d : Except (LayoutError α) CenterFlags) = .error (.invalidCenter letters d)) ∨
    ∃ flags, (c.resolve d : Except (LayoutError α) CenterFlags) = .ok flags := by
  cases c with
  | flag on => cases on <;> exact .inr ⟨_, rfl⟩
  | axes letters =>
    simp only [resolve]
    split
    · exact .inl ⟨letters, rfl, rfl⟩
    · exact .inr ⟨_, rfl⟩

/-! ## The plane in space -/

theorem Fits.three {c : Center} (h : c.Fits .two) : c.Fits .three := by
  cases c with
  | flag on => exact trivial
  | axes letters =>
    refine ⟨h.1, fun l hl => ?_⟩
    obtain ⟨a, ha, hla⟩ := h.2 l hl
    exact ⟨a, List.mem_append_left [Axis.z] ha, hla⟩

/-- In space the axes of the plane are centered as in the plane. -/
theorem get_eq_of_resolve {α : Type} {c : Center} {flags flags' : CenterFlags}
    (h : (c.resolve .two : Except (LayoutError α) CenterFlags) = .ok flags)
    (h' : (c.resolve .three : Except (LayoutError α) CenterFlags) = .ok flags') {a : Axis}
    (ha : a ∈ Dimensionality.two.axes) : flags'.get a = flags.get a := by
  rw [Bool.eq_iff_iff, (resolve_eq_ok.1 h').2, (resolve_eq_ok.1 h).2]
  have ha' : a ∈ Dimensionality.three.axes := List.mem_append_left [Axis.z] ha
  simp only [ha, ha']

/-- A request that fits space but not the plane is a word with the letter of Z. -/
theorem exists_z {c : Center} (h : c.Fits .three) (h' : ¬ c.Fits .two) :
    ∃ letters, c = .axes letters ∧ ('z' ∈ letters.toList ∨ 'Z' ∈ letters.toList) := by
  cases c with
  | flag on => exact absurd trivial h'
  | axes letters =>
    refine ⟨letters, rfl, ?_⟩
    refine Classical.byContradiction fun hz => ?_
    refine h' ⟨h.1, fun l hl => ?_⟩
    obtain ⟨a, -, hla⟩ := h.2 l hl
    cases a with
    | x => exact ⟨.x, by decide, hla⟩
    | y => exact ⟨.y, by decide, hla⟩
    | z =>
      rcases Axis.toUpper_eq_letter.1 hla with rfl | rfl
      · exact absurd (.inr hl) hz
      · exact absurd (.inl hl) hz

end Center

end SketchLayout
