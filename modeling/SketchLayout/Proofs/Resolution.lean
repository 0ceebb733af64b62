import SketchLayout.Proofs.Centering

/-!
# Resolving in the plane and in space

Dimensions are resolved as a list of up to three, as the sides of a rectangle or as those of a box. All
three read one centering request, the rectangle in the plane and the others in space, and pair it with
the dimensions axis by axis. So they agree (`resolvers_agree`): a list gives the sides of the box, cut
off where the list ends, and a rectangle is the one that the box stands on. Only a word with a Z has a
box and no rectangle.
-/

namespace SketchLayout

variable {α : Type} [Scalar α]

namespace Dimension

/-! ## When dimensions are resolved -/

omit [Scalar α] in
/-- What is made of the flags is made whenever the request fits. -/
theorem isOk_of_flags {β : Type} (c : Center) (d : Dimensionality) (make : CenterFlags → β) :
    (do return make (← c.resolve d) : Except (LayoutError α) β).isOk ↔ c.Fits d := by
  rw [← Center.isOk_resolve α]
  cases (c.resolve d : Except (LayoutError α) CenterFlags) with
  | error e => rfl
  | ok flags => rfl

theorem isOk_resolveList (ds : List (Dimension α)) (c : Center) : (resolveList ds c).isOk ↔ c.Fits .three :=
  isOk_of_flags c .three _

theorem isOk_resolveRect (dx dy : Dimension α) (c : Center) : (resolveRect dx dy c).isOk ↔ c.Fits .two :=
  isOk_of_flags c .two _

theorem isOk_resolveBox (dx dy dz : Dimension α) (c : Center) : (resolveBox dx dy dz c).isOk ↔ c.Fits .three :=
  isOk_of_flags c .three _

theorem resolveList_of_flags {c : Center} {flags : CenterFlags}
    (h : (c.resolve .three : Except (LayoutError α) CenterFlags) = .ok flags) (ds : List (Dimension α)) :
    resolveList ds c = .ok (List.zipWith resolve ds (flags.toList .three)) := by
  rw [resolveList, h]
  rfl

theorem resolveBox_of_flags {c : Center} {flags : CenterFlags}
    (h : (c.resolve .three : Except (LayoutError α) CenterFlags) = .ok flags) (dx dy dz : Dimension α) :
    resolveBox dx dy dz c = .ok ⟨dx.resolve flags.x, dy.resolve flags.y, dz.resolve flags.z⟩ := by
  rw [resolveBox, h]
  rfl

/-! ## Axis by axis -/

/-- The `k`-th dimension is paired with the flag of the `k`-th axis. -/
theorem getElem?_zipWith_flags {ds : List (Dimension α)} {flags : CenterFlags} {k : Nat} {d : Dimension α} {a : Axis}
    (hd : ds[k]? = some d) (ha : Axis.all[k]? = some a) :
    (List.zipWith resolve ds (flags.toList .three))[k]? = some (d.resolve (flags.get a)) := by
  have hflag : (flags.toList .three)[k]? = some (flags.get a) := by
    show (Axis.all.map flags.get)[k]? = _
    rw [List.getElem?_map, ha]
    rfl
  rw [List.getElem?_zipWith, hd, hflag]

/-- Dimensions past the third are left out. -/
theorem resolveList_take (ds : List (Dimension α)) (c : Center) : resolveList ds c = resolveList (ds.take 3) c := by
  have hzip : ∀ flags : CenterFlags, List.zipWith resolve ds (flags.toList .three) =
      List.zipWith resolve (ds.take 3) (flags.toList .three) := by
    intro flags
    cases ds with
    | nil => rfl
    | cons dx ds =>
      cases ds with
      | nil => rfl
      | cons dy ds =>
        cases ds with
        | nil => rfl
        | cons dz ds => simp [CenterFlags.toList, Dimensionality.axes]
  unfold resolveList
  simp only [hzip]

/-- A list of three dimensions or more gives the sides of the box. -/
theorem resolveList_eq_resolveBox (dx dy dz : Dimension α) (rest : List (Dimension α)) (c : Center) :
    resolveList (dx :: dy :: dz :: rest) c = (resolveBox dx dy dz c).map fun b => [b.x, b.y, b.z] := by
  cases hc : (c.resolve .three : Except (LayoutError α) CenterFlags) with
  | error e =>
    rw [resolveList, resolveBox, hc]
    rfl
  | ok flags =>
    rw [resolveList_of_flags hc, resolveBox_of_flags hc]
    simp [CenterFlags.toList, Dimensionality.axes, CenterFlags.get, Except.map]

/-- A rectangle is the one that every box over it stands on. -/
theorem exists_box_of_rect {dx dy : Dimension α} {c : Center} {r : Rect α} (h : resolveRect dx dy c = .ok r)
    (dz : Dimension α) : ∃ b, resolveBox dx dy dz c = .ok b ∧ b.xy = r := by
  obtain ⟨flags, hf, rfl⟩ := resolveRect_eq_ok.1 h
  have hfits : c.Fits .three := (Center.resolve_eq_ok.1 hf).1.three
  obtain ⟨flags', hf'⟩ := isOk_iff.1 ((Center.isOk_resolve α).2 hfits)
  refine ⟨_, resolveBox_of_flags hf' dx dy dz, ?_⟩
  have hx : flags'.x = flags.x := Center.get_eq_of_resolve hf hf' (a := .x) (by decide)
  have hy : flags'.y = flags.y := Center.get_eq_of_resolve hf hf' (a := .y) (by decide)
  rw [Box.xy, hx, hy]

end Dimension

/-! ## The law -/

/-- **The resolvers agree.** A list of dimensions and a box are resolved whenever the centering can be read
in space. The list gives as many intervals as it has dimensions, three at most, each resolved by the
flag of its axis: the sides of the box, whatever stands past the third. A rectangle that is resolved is
the one that the box stands on, and where there is a box but no rectangle the centering has a Z. -/
theorem resolvers_agree (c : Center) :
    (∀ ds : List (Dimension α), (Dimension.resolveList ds c).isOk ↔
      (c.resolve .three : Except (LayoutError α) CenterFlags).isOk) ∧
    (∀ (ds : List (Dimension α)) (flags : CenterFlags),
      (c.resolve .three : Except (LayoutError α) CenterFlags) = .ok flags →
        ∃ is, Dimension.resolveList ds c = .ok is ∧ is.length = min 3 ds.length ∧
          ∀ (k : Nat) (d : Dimension α) (a : Axis), ds[k]? = some d → Axis.all[k]? = some a →
            is[k]? = some (d.resolve (flags.get a))) ∧
    (∀ ds : List (Dimension α), Dimension.resolveList ds c = Dimension.resolveList (ds.take 3) c) ∧
    (∀ (dx dy dz : Dimension α) rest, Dimension.resolveList (dx :: dy :: dz :: rest) c =
      (Dimension.resolveBox dx dy dz c).map fun b => [b.x, b.y, b.z]) ∧
    (∀ dx dy dz : Dimension α, (Dimension.resolveBox dx dy dz c).isOk ↔
      (c.resolve .three : Except (LayoutError α) CenterFlags).isOk) ∧
    (∀ (dx dy : Dimension α) r, Dimension.resolveRect dx dy c = .ok r →
      ∀ dz, ∃ b, Dimension.resolveBox dx dy dz c = .ok b ∧ b.xy = r) ∧
    ∀ dx dy dz : Dimension α, (Dimension.resolveBox dx dy dz c).isOk → ¬ (Dimension.resolveRect dx dy c).isOk →
      ∃ letters, c = .axes letters ∧ ('z' ∈ letters.toList ∨ 'Z' ∈ letters.toList) := by
  refine ⟨fun ds => ?_, fun ds flags hf => ?_, fun ds => Dimension.resolveList_take ds c, fun dx dy dz rest => ?_,
    fun dx dy dz => ?_, fun dx dy r => Dimension.exists_box_of_rect, fun dx dy dz hbox hrect => ?_⟩
  · rw [Dimension.isOk_resolveList, Center.isOk_resolve]
  · refine ⟨_, Dimension.resolveList_of_flags hf ds, ?_, fun k d a => Dimension.getElem?_zipWith_flags⟩
    rw [List.length_zipWith, Nat.min_comm]
    rfl
  · exact Dimension.resolveList_eq_resolveBox dx dy dz rest c
  · rw [Dimension.isOk_resolveBox, Center.isOk_resolve]
  · rw [Dimension.isOk_resolveBox] at hbox
    rw [Dimension.isOk_resolveRect] at hrect
    exact Center.exists_z hbox hrect

/-- A plank that is centered along its width stands on the rectangle that the plane gives it, while a
centering of its height is for space alone. -/
theorem box_stands_on_rectangle :
    (∃ b, Dimension.resolveBox (.size (2 : Rat)) (.size 4) (.range 6 (-1)) (.axes "yY") = .ok b ∧
      b.xy = ⟨⟨0, 2⟩, ⟨-2, 2⟩⟩) ∧
    (∃ is, Dimension.resolveList [.size (-3 : Rat), .range 2 1] (.axes "xZ") = .ok is ∧ is.length = 2 ∧
      is[1]? = some ⟨1, 2⟩) ∧
    ∃ letters, Center.axes "xZ" = .axes letters ∧ ('z' ∈ letters.toList ∨ 'Z' ∈ letters.toList) := by
  have hrect : Dimension.resolveRect (.size (2 : Rat)) (.size 4) (.axes "yY") = .ok ⟨⟨0, 2⟩, ⟨-2, 2⟩⟩ :=
    eq_ok_of_toOption (by decide +kernel)
  have hspace : ((Center.axes "xZ").resolve .three : Except (LayoutError Rat) CenterFlags) = .ok ⟨true, false, true⟩ :=
    eq_ok_of_toOption (by decide +kernel)
  have hbox : (Dimension.resolveBox (.size (2 : Rat)) (.size 4) (.size 5) (.axes "xZ")).isOk := by decide +kernel
  have hplane : ¬ (Dimension.resolveRect (.size (2 : Rat)) (.size 4) (.axes "xZ")).isOk := by decide +kernel
  obtain ⟨-, -, -, -, -, hfootprint, -⟩ := resolvers_agree (α := Rat) (.axes "yY")
  obtain ⟨-, hlist, -, -, -, -, hz⟩ := resolvers_agree (α := Rat) (.axes "xZ")
  obtain ⟨is, his, hlength, hitem⟩ := hlist [.size (-3), .range 2 1] _ hspace
  have hsecond := hitem 1 (.range 2 1) .y rfl rfl
  exact ⟨hfootprint _ _ _ hrect (.range 6 (-1)), ⟨is, his, hlength, hsecond.trans (by decide +kernel)⟩,
    hz _ _ _ hbox hplane⟩

end SketchLayout
