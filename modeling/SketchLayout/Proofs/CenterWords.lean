import SketchLayout.Proofs.SpelledJobs

/-!
# Centering words on the command line

`true` and `false` are read as flags wherever a centering is read from a text (`Center.ofText`), and
everything is centered where none is given. The command line does neither: there a centering is always a
word of letters, `true` unless given, and a word that spells a flag names no axes. So a layout asked for
with such a word, or with none, fails, also when it would succeed under the flag (`flag_words_refused`).

Every kind of job looks at its centering once, behind checks that do not depend on it
(`Job.looksOnce_run`); from there on all centerings that are refused are refused alike.
-/

namespace SketchLayout

open Command

/-! ## Looking at the centering once -/

section Once

variable {α : Type}

/-- Whether a run makes checks that do not depend on the centering, then reads the centering, then goes on
with its flags only. -/
def LooksOnce {β : Type} (d : Dimensionality) (run : Center → Except (LayoutError α) β) : Prop :=
  ∃ (γ : Type) (checks : Except (LayoutError α) γ) (rest : γ → CenterFlags → Except (LayoutError α) β),
    ∀ c, run c = do rest (← checks) (← c.resolve d)

namespace LooksOnce

variable {β : Type} {d : Dimensionality} {run : Center → Except (LayoutError α) β}

theorem map {β' : Type} (f : β → β') (h : LooksOnce d run) : LooksOnce d fun c => (run c).map f := by
  obtain ⟨γ, checks, rest, hrun⟩ := h
  refine ⟨γ, checks, fun b flags => (rest b flags).map f, fun c => ?_⟩
  simp only [hrun]
  cases checks with
  | error e => rfl
  | ok b => cases c.resolve (α := α) d <;> rfl

/-- A run with an output has a centering that can be read. -/
theorem exists_flags (h : LooksOnce d run) {c : Center} {b : β} (hok : run c = .ok b) :
    ∃ flags, c.resolve (α := α) d = .ok flags := by
  obtain ⟨γ, checks, rest, hrun⟩ := h
  rw [hrun] at hok
  simp only [bind_eq_ok] at hok
  obtain ⟨x, hchecks, flags, hflags, hrest⟩ := hok
  exact ⟨flags, hflags⟩

/-- If a run has an output under some centering, it fails under another with nothing but the centering. -/
theorem error_of_ok (h : LooksOnce d run) {c c' : Center} {b : β} {e : LayoutError α} (hok : run c = .ok b)
    (hrefused : c'.resolve d = .error e) : run c' = .error e := by
  obtain ⟨γ, checks, rest, hrun⟩ := h
  rw [hrun] at hok
  simp only [bind_eq_ok] at hok
  obtain ⟨x, hchecks, -⟩ := hok
  rw [hrun, hchecks, hrefused]
  rfl

end LooksOnce

variable [Scalar α]

theorem Dims.looksOnce_resolve (d : Dims α) : LooksOnce .three (Dimension.resolveList d.specs) :=
  ⟨Unit, .ok (), fun _ flags => .ok (List.zipWith Dimension.resolve d.specs (flags.toList .three)), fun _ => rfl⟩

theorem Dimension.looksOnce_resolveRect (dx dy : Dimension α) : LooksOnce .two (resolveRect dx dy) :=
  ⟨Unit, .ok (), fun _ flags => .ok ⟨dx.resolve flags.x, dy.resolve flags.y⟩, fun _ => rfl⟩

theorem Outline.looksOnce_points (o : Outline α) : LooksOnce .two fun c => { o with center := c }.points :=
  (Dimension.looksOnce_resolveRect o.sizeX o.sizeY).map Rect.corners

theorem Grid.looksOnce_points (g : Grid α) : LooksOnce .two fun c => { g with center := c }.points := by
  refine ⟨Nat × Nat, do
    g.x.checkedPositive .x
    g.y.checkedPositive .y
    let countX ← checkedCount .x g.x.count
    let countY ← checkedCount .y g.y.count
    let _ ← checkedTotal countX countY
    return (countX, countY), fun counts flags => do
      let stepX ← g.x.step .x flags.x
      let stepY ← g.y.step .y flags.y
      return pairs Point.mk (stepX.coordinates counts.1) (stepY.coordinates counts.2), fun c => ?_⟩
  simp only [points, bind_assoc, pure_bind]

theorem Distribute.looksOnce_points (d : Distribute α) : LooksOnce .two fun c => { d with center := c }.points := by
  refine ⟨Unit, do
    d.x.checkedTile .x
    d.y.checkedTile .y, fun _ flags => do
      let region : Rect α := ⟨d.x.size.resolve flags.x, d.y.size.resolve flags.y⟩
      let countX ← d.x.countIn .x region.x
      let countY ← d.y.countIn .y region.y
      let total ← checkedTotal countX countY
      if total = 0 then return []
      return pairs Point.mk (d.x.positions d.anchor region.x countX) (d.y.positions d.anchor region.y countY),
    fun c => ?_⟩
  simp only [points, Dimension.resolveRect, bind_assoc, pure_bind]

theorem Stretch.looksOnce_tiles (s : Stretch α) : LooksOnce .two fun c => { s with center := c }.tiles := by
  choose γ checks place hplace using fun fillX fillY => (s.origins fillX fillY).looksOnce_points
  refine ⟨Unit, .ok (), fun _ flags => do
    let region : Rect α := ⟨s.x.size.resolve flags.x, s.y.size.resolve flags.y⟩
    let fillX ← s.x.fill .x region.x.size
    if fillX.count = 0 then return []
    let fillY ← s.y.fill .y region.y.size
    if fillY.count = 0 then return []
    let corners ← checks fillX fillY >>= fun x => place fillX fillY x flags
    return corners.map fun p => .new p.x (p.x + fillX.tile) p.y (p.y + fillY.tile), fun c => ?_⟩
  simp only [tiles, Dimension.resolveRect, bind_assoc, pure_bind, ok_bind]
  refine bind_congr_ok fun flags hflags => bind_congr_ok fun fillX _ => ?_
  split
  · rfl
  · refine bind_congr_ok fun fillY _ => ?_
    split
    · rfl
    · -- the centering is read a second time, by the distribution that places the corners
      have hcorners : ({ s with center := c }.origins fillX fillY).points =
          checks fillX fillY >>= fun x => place fillX fillY x flags := by
        refine (hplace fillX fillY c).trans ?_
        rw [hflags]
        rfl
      rw [hcorners, bind_assoc]

namespace Job

omit [Scalar α] in
/-- The request under another centering. -/
def recenter (c : Center) : Job α → Job α
  | dims d => .dims { d with center := c }
  | rect o => .rect { o with center := c }
  | grid g => .grid { g with center := c }
  | distribute d => .distribute { d with center := c }
  | stretch s => .stretch { s with center := c }

omit [Scalar α] in
@[simp] theorem recenter_center (j : Job α) : j.recenter j.center = j := by cases j <;> rfl

theorem looksOnce_run (j : Job α) : LooksOnce j.setting fun c => (j.recenter c).run := by
  cases j with
  | dims d => exact d.looksOnce_resolve.map Output.intervals
  | rect o => exact o.looksOnce_points.map Output.points
  | grid g => exact g.looksOnce_points.map Output.points
  | distribute d => exact d.looksOnce_points.map Output.points
  | stretch s => exact s.looksOnce_tiles.map Output.tiles

/-- A job with an output has a centering that can be read. -/
theorem exists_flags_of_run {j : Job α} {output : Output α} (hok : j.run = .ok output) :
    ∃ flags, j.center.resolve (α := α) j.setting = .ok flags :=
  j.looksOnce_run.exists_flags (by rwa [recenter_center])

end Job

end Once

/-! ## Words that spell flags -/

namespace Center

theorem capitals_toLower (word : String) : capitals word.toLower = capitals word := by
  have hletter : ∀ c : Char, c.toLower.toUpper = c.toUpper := by
    intro c
    unfold Char.toLower
    split
    · rename_i hcapital
      unfold Char.toUpper
      simp only [Char.ext_iff] at hcapital ⊢
      grind
    · rfl
  have hmap : word.toLower = word.map Char.toLower := rfl
  simp [hmap, capitals, String.toList_map, Function.comp_def, hletter]

/-- No setting has the letters of a word that spells a flag. -/
theorem resolve_axes_of_flag {α : Type} {word : String} {on : Bool} (h : ofText word = .flag on) (d : Dimensionality) :
    (axes word).resolve d = .error (.invalidCenter word d : LayoutError α) := by
  have hword : word.toLower = "true" ∨ word.toLower = "false" := by
    unfold ofText at h
    split at h <;> simp_all
  have hrefused : ((capitals word).isEmpty || !(capitals word).all d.letters.contains) = true := by
    rw [← capitals_toLower]
    rcases hword with htrue | hfalse
    · rw [htrue]
      cases d <;> rfl
    · rw [hfalse]
      cases d <;> rfl
  simp only [resolve, hrefused, if_true]

/-- A text is read as a word, or it spells a flag. -/
theorem ofText_cases (word : String) : ofText word = axes word ∨ ∃ on, ofText word = flag on := by
  unfold ofText
  split
  · exact .inr ⟨true, rfl⟩
  · exact .inr ⟨false, rfl⟩
  · exact .inl rfl

end Center

/-! ## Centering words -/

namespace Command

/-- Every layout that is asked for is centered by the word that is given. -/
theorem center_of_request? {verb : Verb} {g : Given} {j : Job Float} (h : request? verb g = some (.layout j)) :
    j.center = g.center := by
  cases verb with
  | run =>
    simp only [request?] at h
    split at h
    · simp [Option.bind_eq_some_iff] at h
    · simp at h
  | layout k =>
    cases k <;> simp only [request?, Option.map_eq_some_iff, Request.layout.injEq] at h
    case dims =>
      obtain ⟨d, hread, rfl⟩ := h
      cases hnone : g.operands.isEmpty with
      | true => simp [dims?, hnone] at hread
      | false =>
        simp only [dims?, hnone, Bool.false_eq_true, if_false, Option.bind_eq_bind, Option.bind_eq_some_iff,
          Option.pure_def, Option.some.injEq] at hread
        obtain ⟨_, -, rfl⟩ := hread
        rfl
    case rect =>
      obtain ⟨o, hread, rfl⟩ := h
      simp only [outline?, Option.bind_eq_bind, Option.bind_eq_some_iff, Option.pure_def, Option.some.injEq] at hread
      obtain ⟨_, -, _, -, rfl⟩ := hread
      rfl
    case grid =>
      obtain ⟨grid, hread, rfl⟩ := h
      simp only [grid?, Option.bind_eq_bind, Option.bind_eq_some_iff, Option.pure_def, Option.some.injEq] at hread
      obtain ⟨_, -, _, -, _, -, _, -, _, -, _, -, rfl⟩ := hread
      rfl
    case distribute =>
      obtain ⟨d, hread, rfl⟩ := h
      simp only [distribute?, Option.bind_eq_bind, Option.bind_eq_some_iff, Option.pure_def, Option.some.injEq] at hread
      obtain ⟨_, -, _, -, _, -, _, -, _, -, _, -, _, -, _, -, _, -, rfl⟩ := hread
      rfl
    case stretch =>
      obtain ⟨s, hread, rfl⟩ := h
      simp only [stretch?, Option.bind_eq_bind, Option.bind_eq_some_iff, Option.pure_def, Option.some.injEq] at hread
      obtain ⟨_, -, _, -, _, -, _, -, _, -, _, -, _, -, _, -, _, -, _, -, rfl⟩ := hread
      rfl

/-- The layout of an invocation is centered by the word behind its command, or by the word `true`. -/
theorem exists_center_word {words : List String} {inv : Invocation} {j : Job Float}
    (hwords : Invocation.ofWords? words = some inv) (hrequest : inv.request = .layout j) :
    ∃ outer given, Invocation.Gives words outer given ∧ j.center = .axes ((given.value? "center").getD "true") := by
  obtain ⟨outer, word, behind, verb, given, left, houter, hverb, hgiven, -, -, -, -, hread⟩ :=
    Invocation.ofWords?_eq_some.mp hwords
  rw [hrequest] at hread
  exact ⟨outer, given, ⟨word, behind, verb, left, houter, hverb, hgiven⟩, center_of_request? hread⟩

end Command

/-- Where the command line does not follow `Center.ofText`. The layout of a command line is centered by the
word that is given, or by the word `true`. Unless that word spells a flag, this is what `Center.ofText` reads.
But a word that spells a flag is refused: the command fails and prints nothing, and where the layout under
the flag would succeed, the command complains that the word names no axes. -/
theorem flag_words_refused {words : List String} {inv : Invocation} {j : Job Float}
    (hwords : Invocation.ofWords? words = some inv) (hrequest : inv.request = .layout j) :
    ∃ outer given word, Invocation.Gives words outer given ∧ word = (given.value? "center").getD "true" ∧
      j.center = .axes word ∧
      (Center.ofText word = j.center ∨
        ∃ on, Center.ofText word = .flag on ∧ ∀ view env colour,
          (Outcome.ofWords words view env colour).status = 1 ∧ (Outcome.ofWords words view env colour).stdout = "" ∧
            ∀ config output, inv.settings view env = .ok config → (j.recenter (.flag on)).run = .ok output →
              ∃ failure, Outcome.ofWords words view env colour = .failed failure ∧
                failure.message =
                  j.kind.name ++ " failed: " ++ (LayoutError.invalidCenter word j.setting).message) := by
  obtain ⟨outer, given, hgives, hcenter⟩ := exists_center_word hwords hrequest
  refine ⟨outer, given, (given.value? "center").getD "true", hgives, rfl, hcenter, ?_⟩
  generalize (given.value? "center").getD "true" = word at hcenter
  rcases Center.ofText_cases word with hword | ⟨on, hflag⟩
  · exact .inl (hword.trans hcenter.symm)
  · refine .inr ⟨on, hflag, fun view env colour => ?_⟩
    have hrefused := Center.resolve_axes_of_flag (α := Float) hflag j.setting
    have hnone : ∀ output, j.run ≠ .ok output := by
      intro output houtput
      obtain ⟨flags, hflags⟩ := Job.exists_flags_of_run houtput
      rw [hcenter, hrefused] at hflags
      cases hflags
    cases hrun : inv.run view env colour with
    | ok text =>
      obtain ⟨config, reports, hsettings, -⟩ := Invocation.run_eq_ok.mp hrun
      rw [Invocation.run_layout hrequest hsettings] at hrun
      cases hjob : j.run with
      | ok output => exact absurd hjob (hnone output)
      | error e => simp [hjob, Except.mapError, Except.map] at hrun
    | error failure =>
      rw [(Outcome.ofWords_eq_failed hwords).mpr hrun]
      refine ⟨rfl, rfl, fun config output hsettings houtput => ⟨failure, rfl, ?_⟩⟩
      have hjob : (j.recenter (.axes word)).run = .error (.invalidCenter word j.setting) :=
        j.looksOnce_run.error_of_ok houtput hrefused
      rw [← hcenter, Job.recenter_center] at hjob
      rw [Invocation.run_layout hrequest hsettings, hjob] at hrun
      cases hrun
      simp [Failure.message, Failure.because, String.append_assoc]

/-- A sheet of two by one. -/
def sheet (c : Center) : Job Float := .rect ⟨.size 2, .size 1, c⟩

/-- A sheet that is asked for with `FALSE` for its centering is refused, though it can be had uncentered. -/
theorem false_word_refused :
    let inv : Invocation := { request := .layout (sheet (.axes "FALSE")) }
    let words := ["rect", "--size-x=2", "--size-y=1", "--center=FALSE"]
    let bare : View := ⟨fun _ => .error .notFound, fun _ => false⟩
    (Invocation.ofWords? words = some inv ∧ inv.request = .layout (sheet (.axes "FALSE"))) ∧
      inv.settings bare {} = .ok {} ∧ (sheet (.flag false)).run.isOk ∧
      (Outcome.ofWords words bare {} false).status = 1 ∧
      ∃ failure, Outcome.ofWords words bare {} false = .failed failure ∧
        failure.message =
          "rect failed: invalid center specification \"FALSE\": expected a bool or a combination of XY" := by
  intro inv words bare
  have hwords : Invocation.ofWords? words = some inv := by
    have hrow : (sheet (.axes "FALSE")).Spelled "FALSE" [("size-x", "2"), ("size-y", "1"), ("center", "FALSE")] :=
      ⟨[], by decide +kernel, by simp⟩
    have hsayable : (sheet (.axes "FALSE")).Sayable :=
      ⟨by decide +kernel, by decide +kernel, fun d h => by cases h⟩
    have hfront : inv.Spelled [] := List.Perm.refl []
    have hinv : inv.Sayable := ⟨by simp [inv], by simp [inv]⟩
    exact Invocation.ofWords?_words rfl rfl hfront hinv hrow hsayable
  have hok : (sheet (.flag false)).run.isOk := by decide +kernel
  obtain ⟨output, houtput⟩ := isOk_iff.mp hok
  obtain ⟨outer, given, word, -, -, hcenter, hword⟩ := flag_words_refused hwords rfl
  obtain rfl : "FALSE" = word := Center.axes.inj hcenter
  rcases hword with hsame | ⟨on, hflag, hrefused⟩
  · exact absurd hsame (by decide +kernel)
  · have hon : Center.ofText "FALSE" = .flag false := by decide +kernel
    obtain rfl : false = on := Center.flag.inj (hon.symm.trans hflag)
    obtain ⟨hstatus, -, hcomplaint⟩ := hrefused bare {} false
    obtain ⟨failure, hfailed, hmessage⟩ := hcomplaint {} output rfl houtput
    exact ⟨⟨hwords, rfl⟩, rfl, hok, hstatus, failure, hfailed, hmessage.trans (by decide +kernel)⟩

/-- The command line does not read a centering as `Center.ofText` does, nor center where none is given: the
sheet can be had under either flag, but not by words that spell these flags, and not without such words. -/
theorem flags_run_and_their_words_fail :
    (sheet .default).run.isOk ∧ (sheet (Center.ofText "true")).run.isOk ∧ (sheet (Center.ofText "False")).run.isOk ∧
      ∀ center ∈ [[], ["--center", "true"], ["--center", "False"]],
        (Outcome.ofWords (["rect", "--size-x", "2", "--size-y", "1"] ++ center)
          ⟨fun _ => .error .notFound, fun _ => false⟩ {} false).status = 1 := by
  decide +kernel

end SketchLayout
