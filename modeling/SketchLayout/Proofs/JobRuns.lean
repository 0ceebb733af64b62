import Mathlib.Data.List.Forall2
import Mathlib.Data.List.TakeWhile
import SketchLayout.Proofs.Outcomes

/-!
# Runs of job files

The jobs of a file are run in order, all or none (`job_file_all_or_nothing`). A file that cannot be read, that
is in no known language, or that spells no jobs fails first, in this order. Then the reports are those of the
jobs, one for each, or the failure is that of the first job that fails; the jobs behind it do not matter, and
of the jobs in front of it nothing is printed.
-/

namespace SketchLayout

open Command

/-! ## Lists of runs -/

section Lists

variable {α β ε : Type} {f : α → Except ε β}

theorem mapM_eq_ok {items : List α} {results : List β} :
    items.mapM f = .ok results ↔ List.Forall₂ (fun a b => f a = .ok b) items results := by
  induction items generalizing results with
  | nil => cases results <;> simp [pure, Except.pure]
  | cons a items ih =>
    simp only [List.mapM_cons, bind_eq_ok, pure_eq_ok, List.forall₂_cons_left_iff, ih]
    constructor
    · rintro ⟨b, hb, rest, hrest, rfl⟩
      exact ⟨b, rest, hb, hrest, rfl⟩
    · rintro ⟨b, rest, hb, hrest, rfl⟩
      exact ⟨b, hb, rest, hrest, rfl⟩

/-- The first run that fails decides, and those behind it are not made. -/
theorem mapM_eq_error {items : List α} {e : ε} :
    items.mapM f = .error e ↔
      ∃ i, ∃ h : i < items.length, (∀ k, ∀ hk : k < i, ∃ b, f items[k] = .ok b) ∧ f items[i] = .error e := by
  induction items with
  | nil => simp [pure, Except.pure]
  | cons a items ih =>
    simp only [List.mapM_cons, bind_eq_error, pure, Except.pure, reduceCtorEq, and_false, exists_false, or_false, ih]
    constructor
    · rintro (ha | ⟨b, hb, i, hi, hbefore, hfails⟩)
      · exact ⟨0, by simp, fun k hk => absurd hk (Nat.not_lt_zero k), ha⟩
      · refine ⟨i + 1, by simpa using hi, fun k hk => ?_, by simpa using hfails⟩
        cases k with
        | zero => exact ⟨b, hb⟩
        | succ k => exact hbefore k (Nat.lt_of_succ_lt_succ hk)
    · rintro ⟨i, hi, hbefore, hfails⟩
      cases i with
      | zero => exact .inl hfails
      | succ i =>
        obtain ⟨b, hb⟩ := hbefore 0 (Nat.succ_pos i)
        exact .inr ⟨b, hb, i, Nat.lt_of_succ_lt_succ hi, fun k hk => hbefore (k + 1) (Nat.succ_lt_succ hk), hfails⟩

end Lists

/-! ## Extensions -/

def Language.extension : Language → String
  | json => "json"
  | toml => "toml"

theorem Language.ofExtension?_eq_some {text : String} {language : Language} :
    ofExtension? text = some language ↔ text = language.extension := by
  unfold ofExtension?
  split <;> cases language <;> simp_all [extension]

namespace Path

/-- Whether the file that a path leads to is called something, a dot, and the extension of a language, the
latter in any letter case. -/
def Names (path : String) (language : Language) : Prop :=
  ∃ name stem ext, fileName? path = some name ∧ name.toList = stem ++ '.' :: ext ∧ stem ≠ [] ∧
    ext.map Char.toLower = language.extension.toList

/-- An extension stands behind the last dot of a name, and something stands in front of that dot. -/
theorem extensionOf?_eq_some {name ext : List Char} :
    extensionOf? name = some ext ↔ ∃ stem, name = stem ++ '.' :: ext ∧ stem ≠ [] ∧ '.' ∉ ext := by
  constructor
  · intro h
    simp only [extensionOf?, Option.ite_none_right_eq_some, Option.some.injEq] at h
    obtain ⟨hlength, rfl⟩ := h
    have hsplit : name.reverse.takeWhile (· != '.') ++ name.reverse.dropWhile (· != '.') = name.reverse :=
      List.takeWhile_append_dropWhile
    cases hrest : name.reverse.dropWhile (· != '.') with
    | nil =>
      -- without a dot the name is all extension
      rw [hrest, List.append_nil] at hsplit
      rw [hsplit, List.length_reverse] at hlength
      omega
    | cons c rest =>
      have hdot : c = '.' := by
        have hhead := List.head?_dropWhile_not (· != '.') name.reverse
        rw [hrest] at hhead
        simpa using hhead
      rw [hrest, hdot] at hsplit
      refine ⟨rest.reverse, ?_, ?_, ?_⟩
      · have hname := congrArg List.reverse hsplit
        simpa using hname.symm
      · rintro hnil
        have hcount := congrArg List.length hsplit
        rw [List.reverse_eq_nil_iff] at hnil
        subst hnil
        simp only [List.length_append, List.length_cons, List.length_nil, List.length_reverse] at hcount
        omega
      · intro hmem
        have hplain := List.mem_takeWhile_imp (List.mem_reverse.mp hmem)
        simp at hplain
  · rintro ⟨stem, rfl, hne, hplain⟩
    have htail : (stem ++ '.' :: ext).reverse.takeWhile (· != '.') = ext.reverse := by
      have hall : ∀ c ∈ ext.reverse, (c != '.') = true := by
        intro c hc
        simp only [bne_iff_ne, ne_eq]
        rintro rfl
        exact hplain (List.mem_reverse.mp hc)
      rw [List.reverse_append, List.reverse_cons, List.append_assoc, List.takeWhile_append_of_pos hall]
      simp
    have hpos := List.length_pos_iff.mpr hne
    simp only [extensionOf?, htail, List.length_reverse, List.length_append, List.length_cons, List.reverse_reverse,
      Option.ite_none_right_eq_some, and_true]
    omega

theorem extension?_eq_some {path text : String} :
    extension? path = some text ↔
      ∃ name ext, fileName? path = some name ∧ extensionOf? name.toList = some ext ∧
        String.ofList (ext.map Char.toLower) = text := by
  simp only [extension?, Option.bind_eq_bind, Option.bind_eq_some_iff, Option.pure_def, Option.some.injEq]
  constructor
  · rintro ⟨name, hname, ext, hext, htext⟩
    exact ⟨name, ext, hname, hext, htext⟩
  · rintro ⟨name, ext, hname, hext, htext⟩
    exact ⟨name, hname, ext, hext, htext⟩

theorem names_iff {path : String} {language : Language} :
    (extension? path).bind Language.ofExtension? = some language ↔ Names path language := by
  simp only [Option.bind_eq_some_iff, Language.ofExtension?_eq_some, exists_eq_right, extension?_eq_some,
    extensionOf?_eq_some]
  constructor
  · rintro ⟨name, ext, hname, ⟨stem, hstem, hne, -⟩, htext⟩
    exact ⟨name, stem, ext, hname, hstem, hne, by rw [← htext, String.toList_ofList]⟩
  · rintro ⟨name, stem, ext, hname, hstem, hne, hlower⟩
    refine ⟨name, ext, hname, ⟨stem, hstem, hne, fun hdot => ?_⟩, by rw [hlower, String.ofList_toList]⟩
    -- no language has a dot in its extension
    have hmem : '.' ∈ language.extension.toList := hlower ▸ List.mem_map.mpr ⟨'.', hdot, rfl⟩
    cases language <;> simp [Language.extension] at hmem

end Path

/-! ## Runs -/

namespace JobFile

theorem runJob_eq_ok {n : NamedJob Float} {r : Report Float} :
    runJob n = .ok r ↔ r.name = n.name ∧ r.kind = n.job.kind.name ∧ n.job.run = .ok r.output := by
  obtain ⟨name, kind, output⟩ := r
  rw [runJob, NamedJob.report]
  cases n.job.run with
  | error e => simp [Except.mapError, Except.map]
  | ok output' =>
    simp only [Except.map, Except.mapError, Except.ok.injEq, Report.mk.injEq]
    exact and_congr eq_comm (and_congr_left' eq_comm)

theorem runJob_isOk {n : NamedJob Float} : (∃ r, runJob n = .ok r) ↔ ∃ output, n.job.run = .ok output := by
  constructor
  · rintro ⟨r, hr⟩
    exact ⟨r.output, (runJob_eq_ok.mp hr).2.2⟩
  · rintro ⟨output, houtput⟩
    exact ⟨⟨n.name, n.job.kind.name, output⟩, runJob_eq_ok.mpr ⟨rfl, rfl, houtput⟩⟩

theorem runJob_eq_error {n : NamedJob Float} {failure : Failure} :
    runJob n = .error failure ↔ ∃ e, n.job.run = .error e ∧ failure = .job n.name n.job.kind e := by
  rw [runJob, NamedJob.report]
  cases n.job.run with
  | ok output => simp [Except.mapError, Except.map]
  | error e => simp [Except.mapError, Except.map, eq_comm]

/-- Whether reports are what the jobs of a file come to: one for each, in order, with its name, its kind and
its output. -/
structure Reported (file : JobFile Float) (reports : List (Report Float)) : Prop where
  length : reports.length = file.jobs.length
  each : ∀ i, ∀ h : i < file.jobs.length, ∀ h' : i < reports.length,
    reports[i].name = file.jobs[i].name ∧ reports[i].kind = file.jobs[i].job.kind.name ∧
      file.jobs[i].job.run = .ok reports[i].output

/-- Whether a failure is that of the first job of a file that fails. -/
def FailsFirst (file : JobFile Float) (failure : Failure) : Prop :=
  ∃ i, ∃ h : i < file.jobs.length, (∀ k, ∀ hk : k < i, ∃ output, file.jobs[k].job.run = .ok output) ∧
    ∃ e, file.jobs[i].job.run = .error e ∧ failure = .job file.jobs[i].name file.jobs[i].job.kind e

theorem run_eq_ok {file : JobFile Float} {reports : List (Report Float)} :
    run file = .ok reports ↔ file.Reported reports := by
  rw [run, mapM_eq_ok, List.forall₂_iff_get]
  simp only [List.get_eq_getElem, runJob_eq_ok]
  constructor
  · rintro ⟨hlength, heach⟩
    exact ⟨hlength.symm, heach⟩
  · rintro ⟨hlength, heach⟩
    exact ⟨hlength.symm, heach⟩

theorem run_eq_error {file : JobFile Float} {failure : Failure} :
    run file = .error failure ↔ file.FailsFirst failure := by
  rw [run, mapM_eq_error]
  simp only [runJob_isOk, runJob_eq_error]
  rfl

/-- A run succeeds if and only if every job does. -/
theorem run_isOk {file : JobFile Float} :
    (∃ reports, run file = .ok reports) ↔ ∀ n ∈ file.jobs, ∃ output, n.job.run = .ok output := by
  constructor
  · rintro ⟨reports, hreports⟩ n hn
    obtain ⟨i, hi, rfl⟩ := List.mem_iff_getElem.mp hn
    obtain ⟨hlength, heach⟩ := run_eq_ok.mp hreports
    exact ⟨_, (heach i hi (hlength ▸ hi)).2.2⟩
  · intro hall
    cases hrun : run file with
    | ok reports => exact ⟨reports, rfl⟩
    | error failure =>
      obtain ⟨i, hi, -, e, he, -⟩ := run_eq_error.mp hrun
      obtain ⟨output, houtput⟩ := hall _ (List.getElem_mem hi)
      rw [he] at houtput
      cases houtput

/-! ## Files -/

section At

variable {view : View} {path : String}

theorem runAt_of_unreadable {fault : FileFault} (h : view.read path = .error fault) :
    runAt view path = .error (.jobsUnreadable path fault) := by
  simp only [runAt, load, h]
  rfl

theorem runAt_of_unnamed {text : String} (h : view.read path = .ok text)
    (hnone : ∀ language, ¬ Path.Names path language) : runAt view path = .error (.jobsUnsupported path) := by
  have hlanguage : (Path.extension? path).bind Language.ofExtension? = none :=
    Option.eq_none_iff_forall_ne_some.mpr fun language hsome => hnone language (Path.names_iff.mp hsome)
  simp only [runAt, load, h, hlanguage]
  rfl

theorem runAt_of_named {text : String} {language : Language} (h : view.read path = .ok text)
    (hnames : Path.Names path language) :
    runAt view path = (match ofText? language text with
      | some file => run file
      | none => .error (.jobsMalformed path)) := by
  simp only [runAt, load, h, Path.names_iff.mpr hnames]
  cases ofText? language text <;> rfl

end At

end JobFile

/-- The jobs of a file are run in order, all or none. What is wrong with the file itself comes first: that it
cannot be read, that its name ends in the extension of no language, that its text spells no jobs. After that
there are reports if and only if every job succeeds, one for each job; or the failure is that of the first job
that fails. A command that runs a file prints nothing unless all this goes well. -/
theorem job_file_all_or_nothing (view : View) (path : String) :
    (∀ fault, view.read path = .error fault → JobFile.runAt view path = .error (.jobsUnreadable path fault)) ∧
    (∀ text, view.read path = .ok text → (∀ language, ¬ Path.Names path language) →
      JobFile.runAt view path = .error (.jobsUnsupported path)) ∧
    (∀ text language, view.read path = .ok text → Path.Names path language →
      JobFile.ofText? language text = none → JobFile.runAt view path = .error (.jobsMalformed path)) ∧
    (∀ text language file, view.read path = .ok text → Path.Names path language →
      JobFile.ofText? language text = some file →
        ((∃ reports, JobFile.runAt view path = .ok reports) ↔
          ∀ n ∈ file.jobs, ∃ output, n.job.run = .ok output) ∧
        (∀ reports, JobFile.runAt view path = .ok reports ↔ file.Reported reports) ∧
        ∀ failure, JobFile.runAt view path = .error failure ↔ file.FailsFirst failure) ∧
    ∀ words inv failure, Invocation.ofWords? words = some inv → inv.request = .file path →
      JobFile.runAt view path = .error failure → ∀ env colour,
        (Outcome.ofWords words view env colour).status = 1 ∧ (Outcome.ofWords words view env colour).stdout = "" ∧
          ∀ config, inv.settings view env = .ok config → Outcome.ofWords words view env colour = .failed failure := by
  refine ⟨fun fault => JobFile.runAt_of_unreadable, fun text => JobFile.runAt_of_unnamed, ?_, ?_, ?_⟩
  · intro text language hread hnames hnone
    rw [JobFile.runAt_of_named hread hnames, hnone]
  · intro text language file hread hnames hsome
    rw [JobFile.runAt_of_named hread hnames, hsome]
    exact ⟨JobFile.run_isOk, fun reports => JobFile.run_eq_ok, fun failure => JobFile.run_eq_error⟩
  · intro words inv failure hwords hrequest hfails env colour
    have hperform : Invocation.perform view inv.request = .error failure := by rw [hrequest]; exact hfails
    cases hrun : inv.run view env colour with
    | ok text =>
      obtain ⟨config, reports, -, hreports, -⟩ := Invocation.run_eq_ok.mp hrun
      rw [hperform] at hreports
      cases hreports
    | error shown =>
      rw [(Outcome.ofWords_eq_failed hwords).mpr hrun]
      refine ⟨rfl, rfl, fun config hsettings => ?_⟩
      rcases Invocation.run_eq_error.mp hrun with hbad | ⟨-, hshown⟩
      · rw [hsettings] at hbad
        cases hbad
      · rw [hperform] at hshown
        cases hshown
        rfl

/-- A fair: two stands of one name, the second over letters that no plane has, and a gate of no points. -/
def fairText : String :=
  "[[jobs]]\nname = \"stand\"\nkind = \"dims\"\nspecs = [3.5]\n" ++
  "[[jobs]]\nname = \"stand\"\nkind = \"grid\"\ncount_x = 2\ncount_y = 1\nspacing_x = 4\ncenter = \"Z\"\n" ++
  "[[jobs]]\nname = \"gate\"\nkind = \"grid\"\ncount_x = 0\ncount_y = 1\n"

/-- Three jobs, of which the second and the third fail. -/
def fair : JobFile Float where
  jobs := [⟨"stand", .dims ⟨[.size 3.5], .default⟩⟩, ⟨"stand", .grid ⟨⟨2, some 4, none⟩, ⟨1, none, none⟩, .axes "Z"⟩⟩,
    ⟨"gate", .grid ⟨⟨0, none, none⟩, ⟨1, none, none⟩, .default⟩⟩]

/-- The file fails with its second job: of the first nothing is reported, and the third is not looked at. -/
theorem file_fails_at_second_job :
    let path := "plans/Fair.v2.ToML"
    let view : View := ⟨fun _ => .ok fairText, fun _ => false⟩
    (view.read path = .ok fairText ∧ Path.Names path .toml ∧ JobFile.ofText? .toml fairText = some fair) ∧
      JobFile.runAt view path = .error (.job "stand" .grid (.invalidCenter "Z" .two)) ∧
      (Outcome.ofWords ["run", path] view {} false).stdout = "" ∧
      Outcome.ofWords ["run", path] view {} false = .failed (.job "stand" .grid (.invalidCenter "Z" .two)) := by
  intro path view
  have hnames : Path.Names path .toml :=
    ⟨"Fair.v2.ToML", "Fair.v2".toList, "ToML".toList, by decide +kernel, by decide +kernel, by decide +kernel,
      by decide +kernel⟩
  have hfair : JobFile.ofText? .toml fairText = some fair := by decide +kernel
  obtain ⟨-, -, -, hjobs, hcommand⟩ := job_file_all_or_nothing view path
  have hfirst : fair.FailsFirst (.job "stand" .grid (.invalidCenter "Z" .two)) := by
    refine ⟨1, by decide, fun k hk => ?_, .invalidCenter "Z" .two, rfl, rfl⟩
    obtain rfl : k = 0 := by omega
    exact ⟨_, rfl⟩
  have hfails := ((hjobs fairText .toml fair rfl hnames hfair).2.2 _).mpr hfirst
  have hwords : Invocation.ofWords? ["run", path] = some { request := .file path } :=
    Invocation.ofWords?_eq_some.mpr ⟨{}, "run", [path], .run, ⟨[], [path]⟩, [], by decide +kernel, by decide +kernel,
      by decide +kernel, rfl, rfl, rfl, rfl, rfl⟩
  obtain ⟨-, hstdout, hshown⟩ := hcommand _ _ _ hwords rfl hfails {} false
  exact ⟨⟨rfl, hnames, hfair⟩, hfails, hstdout, hshown {} rfl⟩

end SketchLayout
