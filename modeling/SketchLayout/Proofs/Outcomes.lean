import SketchLayout.Command.Outcome
import SketchLayout.Proofs.Run

/-!
# What a command line comes to

The steps of a command line, one lemma each: how its words are read (`Invocation.ofWords?_eq_some`), how
it runs or fails (`Invocation.run_eq_ok`, `Invocation.run_eq_error`), and what is then seen of it
(`Outcome.ofWords_eq_printed`, `Outcome.ofWords_eq_failed`).
-/

namespace SketchLayout

open Command

theorem bind_eq_error {ε β γ : Type} {x : Except ε β} {f : β → Except ε γ} {e : ε} :
    (x >>= f) = .error e ↔ x = .error e ∨ ∃ b, x = .ok b ∧ f b = .error e := by
  cases x <;> simp [bind, Except.bind]

namespace Invocation

variable {words : List String} {inv : Invocation}

/-- Words make an invocation if they are options, a command and what belongs behind it; its fields are then
read from the options on both sides of the command. -/
theorem ofWords?_eq_some :
    ofWords? words = some inv ↔
      ∃ outer word behind verb inner left,
        preamble.read words = some (outer, word :: behind) ∧ Verb.ofName? word = some verb ∧
          verb.form.read behind = some (inner, left) ∧ (outer.has "help" || inner.has "help") = false ∧
            common? outer inner OutputFormat.ofText? "format" = some inv.format ∧
              common? outer inner count? "precision" = some inv.precision ∧
                common? outer inner path? "config" = some inv.config ∧ request? verb inner = some inv.request := by
  constructor
  · intro h
    simp only [ofWords?, Option.bind_eq_bind, Option.bind_eq_some_iff, Prod.exists] at h
    obtain ⟨outer, rest, houter, h⟩ := h
    cases rest with
    | nil => simp at h
    | cons word behind =>
      simp only [Option.bind_eq_some_iff, Prod.exists] at h
      obtain ⟨verb, hverb, inner, left, hinner, h⟩ := h
      cases hhelp : outer.has "help" || inner.has "help" with
      | true => simp [hhelp] at h
      | false =>
        simp only [hhelp, Bool.false_eq_true, if_false, Option.bind_eq_some_iff, Option.pure_def,
          Option.some.injEq] at h
        obtain ⟨format, hformat, precision, hprecision, config, hconfig, request, hrequest, rfl⟩ := h
        exact ⟨outer, word, behind, verb, inner, left, houter, hverb, hinner, hhelp, hformat, hprecision, hconfig,
          hrequest⟩
  · rintro ⟨outer, word, behind, verb, inner, left, houter, hverb, hinner, hhelp, hformat, hprecision, hconfig,
      hrequest⟩
    simp only [ofWords?, houter, hverb, hinner, hhelp, hformat, hprecision, hconfig, hrequest, Option.bind_eq_bind,
      Option.bind_some, Bool.false_eq_true, if_false, Option.pure_def]

/-- Whether these are what a command line gives in front of its command and behind it. -/
def Gives (words : List String) (outer inner : Given) : Prop :=
  ∃ word behind verb left, preamble.read words = some (outer, word :: behind) ∧ Verb.ofName? word = some verb ∧
    verb.form.read behind = some (inner, left)

variable {view : View} {env : Environment} {colour : Bool}

theorem run_eq_ok {text : String} :
    inv.run view env colour = .ok text ↔
      ∃ config reports, inv.settings view env = .ok config ∧ perform view inv.request = .ok reports ∧
        Report.print config colour reports = text := by
  simp only [run, bind_eq_ok, pure_eq_ok]
  constructor
  · rintro ⟨config, hconfig, reports, hreports, htext⟩
    exact ⟨config, reports, hconfig, hreports, htext⟩
  · rintro ⟨config, reports, hconfig, hreports, htext⟩
    exact ⟨config, hconfig, reports, hreports, htext⟩

/-- An invocation fails with its configuration, or, under a good one, with what it is to do. -/
theorem run_eq_error {failure : Failure} :
    inv.run view env colour = .error failure ↔
      inv.settings view env = .error failure ∨
        (∃ config, inv.settings view env = .ok config) ∧ perform view inv.request = .error failure := by
  simp only [run, bind_eq_error, pure, Except.pure, reduceCtorEq, and_false, exists_false, or_false,
    exists_and_right]

end Invocation

namespace Outcome

variable {words : List String} {inv : Invocation} {view : View} {env : Environment} {colour : Bool}

theorem ofWords_eq_printed (hwords : Invocation.ofWords? words = some inv) {text : String} :
    ofWords words view env colour = .printed text ↔ inv.run view env colour = .ok text := by
  cases hrun : inv.run view env colour <;> simp [ofWords, hwords, hrun]

theorem ofWords_eq_failed (hwords : Invocation.ofWords? words = some inv) {failure : Failure} :
    ofWords words view env colour = .failed failure ↔ inv.run view env colour = .error failure := by
  cases hrun : inv.run view env colour <;> simp [ofWords, hwords, hrun]

end Outcome

end SketchLayout
