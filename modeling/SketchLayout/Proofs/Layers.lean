import SketchLayout.Proofs.NumberTexts
import SketchLayout.Proofs.Outcomes

/-!
# Layers of the configuration

The configuration in effect comes from four layers: the defaults, a file, the environment and the options of
the command. Each layer may name a format and a precision, and each field is settled on its own by the last
layer that names it (`layers_override`).

What is wrong with a layer is never covered up by a later one. The file is looked at first, then the format of
the environment, then its precision, and the first of them that is wrong ends the command before anything is
run, whatever its options say.
-/

namespace SketchLayout

open Command

/-! ## What layers say -/

/-- What a layer says about the output. -/
structure Layer where
  format : Option OutputFormat := none
  precision : Option Nat := none
  deriving DecidableEq, Repr

/-- The layer of a configuration file: the fields that a TOML text names. -/
def Layer.ofText? (text : String) : Option Layer := do
  match ← (← Toml.read? text).columns? Config.columns with
  | [format, precision] =>
    return ⟨← format.mapM (OutputFormat.ofDocument? .toml), ← precision.mapM Document.toCount?⟩
  | _ => none

theorem Column.defaulted_eq {β : Type} (value : β) (read : Document → Option β) (column : Option Document) :
    defaulted value read column = (column.mapM read).map (·.getD value) := by
  cases column with
  | none => rfl
  | some d => cases h : read d <;> simp [defaulted, h]

/-- A configuration file is read as the defaults under its layer. -/
theorem Config.ofText?_eq (text : String) :
    ofText? text = (Layer.ofText? text).map fun layer => ({} : Config).override layer.format layer.precision := by
  unfold ofText? Layer.ofText?
  cases Toml.read? text with
  | none => rfl
  | some d =>
    simp only [Option.bind_some, Option.bind_eq_bind, ofDocument?]
    cases d.columns? columns with
    | none => rfl
    | some values =>
      -- a record has as many values as columns; with any other number nothing is read
      rcases values with _ | ⟨format, _ | ⟨precision, _ | ⟨surplus, values⟩⟩⟩
      · rfl
      · rfl
      · simp only [Option.bind_some, Column.defaulted_eq]
        cases format.mapM (OutputFormat.ofDocument? .toml) with
        | none => rfl
        | some format => cases precision.mapM Document.toCount? <;> rfl
      · rfl

/-! ## Files -/

namespace Config

/-- The file that is looked at: the explicit one, else the standing one if it is there. -/
def chosenFile (view : View) (path : Option String) : Option String :=
  path.or (if view.holds standingFile then some standingFile else none)

/-- Whether a layer is that of the file that is looked at. Without such a file the layer says nothing. -/
def FileSays (view : View) (path : Option String) (layer : Layer) : Prop :=
  match chosenFile view path with
  | none => layer = {}
  | some file => ∃ text, view.read file = .ok text ∧ Layer.ofText? text = some layer

/-- Whether a failure is that the file that is looked at cannot be read, or spells no layer. -/
def FileFails (view : View) (path : Option String) (failure : Failure) : Prop :=
  ∃ file, chosenFile view path = some file ∧
    ((∃ fault, view.read file = .error fault ∧ failure = .configUnreadable file fault) ∨
      ∃ text, view.read file = .ok text ∧ Layer.ofText? text = none ∧ failure = .configMalformed file)

theorem base_eq (view : View) (path : Option String) :
    base view path = match chosenFile view path with
      | none => .ok {}
      | some file => ofFile view file := by
  cases path with
  | some file => rfl
  | none =>
    unfold base chosenFile
    cases view.holds standingFile <;> rfl

theorem base_eq_ok {view : View} {path : Option String} {config : Config} :
    base view path = .ok config ↔
      ∃ layer, FileSays view path layer ∧ config = ({} : Config).override layer.format layer.precision := by
  rw [base_eq]
  unfold FileSays
  cases chosenFile view path with
  | none => simp [override, eq_comm]
  | some file =>
    simp only [ofFile]
    cases view.read file with
    | error fault => simp
    | ok text =>
      simp only [ofText?_eq, Except.ok.injEq, exists_eq_left']
      cases Layer.ofText? text <;> simp [eq_comm]

theorem base_eq_error {view : View} {path : Option String} {failure : Failure} :
    base view path = .error failure ↔ FileFails view path failure := by
  rw [base_eq]
  unfold FileFails
  cases chosenFile view path with
  | none => simp
  | some file =>
    simp only [ofFile, Option.some.injEq, exists_eq_left']
    cases view.read file with
    | error fault => simp [eq_comm]
    | ok text =>
      simp only [ofText?_eq, Except.ok.injEq, exists_eq_left']
      cases Layer.ofText? text <;> simp [eq_comm]

end Config

/-! ## Settings -/

/-- Whether a text names a format: it is the word for it, in any letter case. -/
def OutputFormat.Spells (text : String) (f : OutputFormat) : Prop := text.toLower = f.name

/-- Whether a text names a count: digits that spell it below the bound, perhaps behind a plus sign. -/
def CountLiteral.Spells (text : String) (n : Nat) : Prop :=
  ∃ ds, (text.toList = ds ∨ text.toList = '+' :: ds) ∧ ds ≠ [] ∧ (∀ c ∈ ds, c.isDigit = true) ∧ digitsValue ds = n ∧
    n < bound

theorem OutputFormat.ofText?_eq_some {text : String} {f : OutputFormat} : ofText? text = some f ↔ Spells text f := by
  unfold ofText? ofName? Spells
  split <;> cases f <;> simp_all [name]

theorem Command.count?_eq_some {text : String} {n : Nat} : count? text = some n ↔ CountLiteral.Spells text n := by
  unfold count? CountLiteral.Spells
  rw [← CountLiteral.read_eq_ok_iff]
  cases CountLiteral.read text.toList <;> simp [Except.toOption]

/-- Whether a setting says this: nothing if it is not made, else what its text spells. -/
def SettingSays {β : Type} (spells : String → β → Prop) (setting : Option String) (value : Option β) : Prop :=
  match setting with
  | none => value = none
  | some text => ∃ b, spells text b ∧ value = some b

/-- Whether a setting is made with a text that spells nothing. -/
def SettingWrong {β : Type} (spells : String → β → Prop) (setting : Option String) (text : String) : Prop :=
  setting = some text ∧ ∀ b, ¬ spells text b

namespace Environment

variable {env : Environment}

theorem format?_eq_ok {value : Option OutputFormat} :
    env.format? = .ok value ↔ SettingSays OutputFormat.Spells env.format value := by
  unfold format? SettingSays
  cases env.format with
  | none => simp [eq_comm]
  | some text =>
    simp only [← OutputFormat.ofText?_eq_some]
    cases OutputFormat.ofText? text <;> simp [eq_comm]

theorem format?_eq_error {failure : Failure} :
    env.format? = .error failure ↔
      ∃ text, SettingWrong OutputFormat.Spells env.format text ∧ failure = .formatSetting text := by
  unfold format? SettingWrong
  cases env.format with
  | none => simp
  | some text =>
    simp only [← OutputFormat.ofText?_eq_some]
    cases h: OutputFormat.ofText? text <;> simp [eq_comm, h]

theorem precision?_eq_ok {value : Option Nat} :
    env.precision? = .ok value ↔ SettingSays CountLiteral.Spells env.precision value := by
  unfold precision? SettingSays CountLiteral.Spells
  cases env.precision with
  | none => simp [eq_comm]
  | some text =>
    simp only [← CountLiteral.read_eq_ok_iff]
    cases CountLiteral.read text.toList <;> simp [eq_comm]

theorem precision?_eq_error {failure : Failure} :
    env.precision? = .error failure ↔
      ∃ text fault, SettingWrong CountLiteral.Spells env.precision text ∧
        CountLiteral.read text.toList = .error fault ∧ failure = .precisionSetting text fault := by
  unfold precision? SettingWrong CountLiteral.Spells
  cases env.precision with
  | none => simp
  | some text =>
    simp only [← CountLiteral.read_eq_ok_iff]
    cases h : CountLiteral.read text.toList <;> simp [eq_comm, h]

end Environment

/-! ## Layers in effect -/

namespace Config

/-- Whether a configuration is what the layers come to, `flags` being the last: each field is that of the last
layer that names it, and else the default. -/
def Layered (view : View) (env : Environment) (path : Option String) (flags : Layer) (config : Config) : Prop :=
  ∃ file format precision, FileSays view path file ∧ SettingSays OutputFormat.Spells env.format format ∧
    SettingSays CountLiteral.Spells env.precision precision ∧
      config.format = (flags.format.or (format.or file.format)).getD .table ∧
        config.precision = (flags.precision.or (precision.or file.precision)).getD 4

/-- Whether a failure is that of the first layer that is wrong: the file, then the format of the environment,
then its precision. -/
def LoadFails (view : View) (env : Environment) (path : Option String) (failure : Failure) : Prop :=
  FileFails view path failure ∨
    (∃ file, FileSays view path file) ∧
      ((∃ text, SettingWrong OutputFormat.Spells env.format text ∧ failure = .formatSetting text) ∨
        (∃ format, SettingSays OutputFormat.Spells env.format format) ∧
          ∃ text fault, SettingWrong CountLiteral.Spells env.precision text ∧
            CountLiteral.read text.toList = .error fault ∧ failure = .precisionSetting text fault)

variable {view : View} {env : Environment} {path : Option String}

theorem load_eq_ok {config : Config} :
    load view env path = .ok config ↔
      ∃ file format precision, FileSays view path file ∧ SettingSays OutputFormat.Spells env.format format ∧
        SettingSays CountLiteral.Spells env.precision precision ∧
          config = (({} : Config).override file.format file.precision).override format precision := by
  simp only [load, bind_eq_ok, pure_eq_ok, base_eq_ok, Environment.format?_eq_ok, Environment.precision?_eq_ok]
  constructor
  · rintro ⟨base, ⟨file, hfile, rfl⟩, format, hformat, precision, hprecision, rfl⟩
    exact ⟨file, format, precision, hfile, hformat, hprecision, rfl⟩
  · rintro ⟨file, format, precision, hfile, hformat, hprecision, rfl⟩
    exact ⟨_, ⟨file, hfile, rfl⟩, format, hformat, precision, hprecision, rfl⟩

theorem load_eq_error {failure : Failure} : load view env path = .error failure ↔ LoadFails view env path failure := by
  simp only [load, bind_eq_error, base_eq_error, Environment.format?_eq_error, Environment.precision?_eq_error,
    pure, Except.pure, reduceCtorEq, and_false, exists_false, or_false, LoadFails]
  refine or_congr_right ?_
  constructor
  · rintro ⟨base, hbase, hrest⟩
    obtain ⟨file, hfile, -⟩ := base_eq_ok.mp hbase
    refine ⟨⟨file, hfile⟩, hrest.imp_right ?_⟩
    rintro ⟨format, hformat, hprecision⟩
    exact ⟨⟨format, Environment.format?_eq_ok.mp hformat⟩, hprecision⟩
  · rintro ⟨⟨file, hfile⟩, hrest⟩
    refine ⟨_, base_eq_ok.mpr ⟨file, hfile, rfl⟩, hrest.imp_right ?_⟩
    rintro ⟨⟨format, hformat⟩, hprecision⟩
    exact ⟨format, Environment.format?_eq_ok.mpr hformat, hprecision⟩

/-- The last layer that names a field settles it, flags over what is loaded. -/
theorem layered_iff {flags : Layer} {config : Config} :
    Layered view env path flags config ↔
      ∃ loaded, load view env path = .ok loaded ∧ config = loaded.override flags.format flags.precision := by
  have hfields : ∀ (file : Layer) (format : Option OutputFormat) (precision : Option Nat),
      ((({} : Config).override file.format file.precision).override format precision).override flags.format
          flags.precision =
        ⟨(flags.format.or (format.or file.format)).getD .table,
          (flags.precision.or (precision.or file.precision)).getD 4⟩ := by
    intro file format precision
    simp only [override, Option.getD_or]
  constructor
  · rintro ⟨file, format, precision, hfile, hformat, hprecision, hformatField, hprecisionField⟩
    refine ⟨_, load_eq_ok.mpr ⟨file, format, precision, hfile, hformat, hprecision, rfl⟩, ?_⟩
    rw [hfields, ← hformatField, ← hprecisionField]
  · rintro ⟨loaded, hloaded, rfl⟩
    obtain ⟨file, format, precision, hfile, hformat, hprecision, rfl⟩ := load_eq_ok.mp hloaded
    rw [hfields]
    exact ⟨file, format, precision, hfile, hformat, hprecision, rfl, rfl⟩

end Config

namespace Invocation

variable {inv : Invocation} {view : View} {env : Environment}

theorem settings_eq_ok {config : Config} :
    inv.settings view env = .ok config ↔ Config.Layered view env inv.config ⟨inv.format, inv.precision⟩ config := by
  rw [Config.layered_iff]
  simp only [settings, bind_eq_ok, pure_eq_ok]
  exact exists_congr fun loaded => and_congr_right' eq_comm

theorem settings_eq_error {failure : Failure} :
    inv.settings view env = .error failure ↔ Config.LoadFails view env inv.config failure := by
  simp only [settings, bind_eq_error, Config.load_eq_error, pure, Except.pure, reduceCtorEq, and_false, exists_false,
    or_false]

/-- The text of a common option: the one behind the command, else the one in front of it. -/
def flag? (outer inner : Given) (name : String) : Option String := (inner.value? name).or (outer.value? name)

theorem optional_eq_some {β : Type} {g : Given} {read : String → Option β} {name : String} {value : Option β} :
    g.optional read name = some value ↔ SettingSays (fun text b => read text = some b) (g.value? name) value := by
  unfold Given.optional SettingSays
  cases g.value? name with
  | none => simp [eq_comm]
  | some text => simp [Option.map_eq_some_iff, eq_comm]

/-- A common option that is read says what its text spells. -/
theorem settingSays_of_common? {β : Type} {outer inner : Given} {read : String → Option β} {name : String}
    {value : Option β} (h : common? outer inner read name = some value) :
    SettingSays (fun text b => read text = some b) (flag? outer inner name) value := by
  simp only [common?, Option.bind_eq_bind, Option.bind_eq_some_iff, Option.pure_def, Option.some.injEq,
    optional_eq_some] at h
  obtain ⟨before, hbefore, behind, hbehind, rfl⟩ := h
  unfold flag?
  cases hinner : inner.value? name with
  | none =>
    rw [hinner] at hbehind
    obtain rfl : behind = none := hbehind
    exact hbefore
  | some text =>
    rw [hinner] at hbehind
    obtain ⟨b, hb, rfl⟩ := hbehind
    exact ⟨b, hb, rfl⟩

/-- What an invocation says about printing is what the options of its command line say. -/
theorem exists_gives {words : List String} (hwords : ofWords? words = some inv) :
    ∃ outer inner, Gives words outer inner ∧ SettingSays OutputFormat.Spells (flag? outer inner "format") inv.format ∧
      SettingSays CountLiteral.Spells (flag? outer inner "precision") inv.precision ∧
        flag? outer inner "config" = inv.config := by
  obtain ⟨outer, word, behind, verb, inner, left, houter, hverb, hinner, -, hformat, hprecision, hconfig, -⟩ :=
    ofWords?_eq_some.mp hwords
  refine ⟨outer, inner, ⟨word, behind, verb, left, houter, hverb, hinner⟩, ?_, ?_, ?_⟩
  · have hsays := settingSays_of_common? hformat
    simpa only [OutputFormat.ofText?_eq_some] using hsays
  · have hsays := settingSays_of_common? hprecision
    simpa only [Command.count?_eq_some] using hsays
  · have hsays := settingSays_of_common? hconfig
    cases hflag : flag? outer inner "config" with
    | none =>
      rw [hflag] at hsays
      exact hsays.symm
    | some text =>
      rw [hflag] at hsays
      obtain ⟨path, hpath, hsome⟩ := hsays
      simp only [path?, Option.ite_none_left_eq_some, Option.some.injEq] at hpath
      rw [hsome, hpath.2]

end Invocation

/-- **Layers override field by field.** Whatever the files, the environment and the explicit path: what is loaded
has each field from the last layer that names it, the environment over the file over the defaults, and loading
fails with what is wrong with the file, else with the format of the environment, else with its precision. A
command line puts its own options on top in the same way; but if loading fails, so does it, whatever these
options say and whatever it is to run. -/
theorem layers_override (view : View) (env : Environment) (path : Option String) :
    (∀ config, Config.load view env path = .ok config ↔ Config.Layered view env path {} config) ∧
    (∀ failure, Config.load view env path = .error failure ↔ Config.LoadFails view env path failure) ∧
    ∀ words inv, Invocation.ofWords? words = some inv → inv.config = path →
      (∃ outer inner, Invocation.Gives words outer inner ∧
        SettingSays OutputFormat.Spells (Invocation.flag? outer inner "format") inv.format ∧
          SettingSays CountLiteral.Spells (Invocation.flag? outer inner "precision") inv.precision ∧
            Invocation.flag? outer inner "config" = path) ∧
      (∀ config, inv.settings view env = .ok config ↔
        Config.Layered view env path ⟨inv.format, inv.precision⟩ config) ∧
      (∀ failure, Config.LoadFails view env path failure →
        ∀ colour, Outcome.ofWords words view env colour = .failed failure) ∧
      ∀ config reports, inv.settings view env = .ok config → Invocation.perform view inv.request = .ok reports →
        ∀ colour, Outcome.ofWords words view env colour = .printed (Report.print config colour reports) := by
  refine ⟨fun config => ?_, fun failure => Config.load_eq_error, ?_⟩
  · rw [Config.layered_iff]
    constructor
    · intro hload
      exact ⟨config, hload, rfl⟩
    · rintro ⟨loaded, hload, rfl⟩
      exact hload
  · rintro words inv hwords rfl
    refine ⟨Invocation.exists_gives hwords, fun config => Invocation.settings_eq_ok, fun failure hfails colour => ?_,
      fun config reports hsettings hreports colour => ?_⟩
    · rw [Outcome.ofWords_eq_failed hwords, Invocation.run_eq_error]
      exact .inl (Invocation.settings_eq_error.mpr hfails)
    · rw [Outcome.ofWords_eq_printed hwords, Invocation.run_eq_ok]
      exact ⟨config, reports, hsettings, hreports, rfl⟩

/-- A file that names a precision under a variable that names a format, and a flag over both; a variable that
names no format, which the flag does not make good. -/
theorem partial_layers_settled :
    let view : View := ⟨fun _ => .ok "precision = 2\n", fun _ => true⟩
    let words := ["--format=Table", "run", "jobs.toml"]
    let inv : Invocation := { format := some .table, request := .file "jobs.toml" }
    (Invocation.ofWords? words = some inv ∧ inv.config = none) ∧
      Config.load view { format := some "JSON" } none = .ok ⟨.json, 2⟩ ∧
      inv.settings view { format := some "JSON" } = .ok ⟨.table, 2⟩ ∧
      Config.LoadFails view { format := some "yaml" } none (.formatSetting "yaml") ∧
      Outcome.ofWords words view { format := some "yaml" } false = .failed (.formatSetting "yaml") := by
  intro view words inv
  have hwords : Invocation.ofWords? words = some inv :=
    Invocation.ofWords?_eq_some.mpr ⟨⟨[("format", some "Table")], []⟩, "run", ["jobs.toml"], .run,
      ⟨[], ["jobs.toml"]⟩, [], by decide +kernel, by decide +kernel, by decide +kernel, rfl, by decide +kernel, rfl, rfl,
      rfl⟩
  have hfile : Config.FileSays view none ⟨none, some 2⟩ := ⟨_, rfl, by decide +kernel⟩
  have hjson : SettingSays OutputFormat.Spells (some "JSON") (some .json) :=
    ⟨.json, show "JSON".toLower = "json" by decide +kernel, rfl⟩
  have hyaml : SettingWrong OutputFormat.Spells (some "yaml") "yaml" := by
    have hother : ∀ f : OutputFormat, "yaml".toLower ≠ f.name := by
      intro f
      cases f <;> decide +kernel
    exact ⟨rfl, hother⟩
  obtain ⟨hload, -, hcommand⟩ := layers_override view { format := some "JSON" } none
  obtain ⟨-, hsettings, -⟩ := hcommand words inv hwords rfl
  obtain ⟨-, -, hcommand'⟩ := layers_override view { format := some "yaml" } none
  have hfails : Config.LoadFails view { format := some "yaml" } none (.formatSetting "yaml") :=
    .inr ⟨⟨_, hfile⟩, .inl ⟨"yaml", hyaml, rfl⟩⟩
  exact ⟨⟨hwords, rfl⟩, (hload _).mpr ⟨_, _, none, hfile, hjson, rfl, rfl, rfl⟩,
    (hsettings _).mpr ⟨_, _, none, hfile, hjson, rfl, rfl, rfl⟩, hfails,
    (hcommand' words inv hwords rfl).2.2.1 _ hfails false⟩

end SketchLayout
