import EntityGen.Proofs.Command.FileSystem
import EntityGen.Proofs.Tree.ReadBack
import Mathlib

/-!
Settings in layers. A file of settings is a layer if it can be read and holds settings, and any other file is as good
as none (`FileSystem.layer?_eq_none_iff`). A setting has its value from the uppermost layer that has one for it
(`FileSystem.setting_eq`), whatever the layers say of other settings. `settings_in_layers` says what a run makes of
the project's layer over the user's, under its own arguments. -/
namespace EntityGen

namespace Settings
variable {α : Type}

/-- The value of a setting in the first of the layers that has one. -/
def inLayers (layers : List (Option Settings)) (setting : Settings → Option α) : Option α :=
  layers.findSome? (·.bind setting)

/-- The setting is left open or settled by itself. -/
structure Single (setting : Settings → Option α) : Prop where
  blank : setting {} = none
  orElse (upper lower : Settings) : setting (upper.orElse lower) = (setting upper <|> setting lower)

theorem single_storage : Single (·.tags.storage) := ⟨rfl, fun _ _ => rfl⟩

theorem single_validation : Single (·.tags.validation) := ⟨rfl, fun _ _ => rfl⟩

theorem single_languages : Single (·.languages) := ⟨rfl, fun _ _ => rfl⟩

/-- Of two layers, the lower counts where the upper is not there or leaves the setting open. -/
theorem Single.inLayers_eq {setting : Settings → Option α} (single : Single setting) (upper lower : Option Settings) :
    setting ((upper.getD {}).orElse (lower.getD {})) = inLayers [upper, lower] setting := by
  have own (layer : Option Settings) : setting (layer.getD {}) = layer.bind setting := by
    cases layer with
    | none => exact single.blank
    | some => rfl
  rw [single.orElse, own, own]
  unfold inLayers
  rw [List.findSome?_cons, List.findSome?_singleton]
  cases upper.bind setting <;> rfl

theorem snd_ofLayer (layer : Option String) : (ofLayer layer).2 = (layer.bind parse?).getD {} := by
  cases layer with
  | none => rfl
  | some text => cases held : parse? text <;> simp [ofLayer, held]

theorem snd_ofLayers (user project : Option String) :
    (ofLayers user project).2 = ((project.bind parse?).getD {}).orElse ((user.bind parse?).getD {}) := by
  rw [← snd_ofLayer, ← snd_ofLayer]
  rfl

/-- Names of no dialect are passed over; the others keep their order. -/
theorem snd_dialectsNamed (names : List String) : (dialectsNamed names).2 = names.filterMap Dialect.ofName? := by
  induction names with
  | nil => rfl
  | cons name rest ih =>
    rw [dialectsNamed]
    cases known : Dialect.ofName? name with
    | none => rw [List.filterMap_cons_none known, ← ih]
    | some dialect => rw [List.filterMap_cons_some known, ← ih]

end Settings

namespace FileSystem
variable {σ α : Type} (fs : FileSystem σ) (state : σ)

/-- The settings in a file, if there are any. -/
def layer? (path : Option String) : Option Settings :=
  path.bind fun path => (fs.read state path).toOption.bind Settings.parse?

/-- There is no layer where no file is, and none in a file that cannot be read or is malformed. -/
theorem layer?_eq_none_iff (path : Option String) :
    fs.layer? state path = none ↔
      ∀ file ∈ path, ∀ text, fs.read state file = .ok text → Settings.parse? text = none := by
  cases path with
  | none => exact ⟨fun _ => nofun, fun _ => rfl⟩
  | some file =>
    simp only [layer?, Option.bind_some, Option.mem_def, Option.some.injEq, forall_eq']
    cases fs.read state file with
    | error fault => exact ⟨fun _ => nofun, fun _ => rfl⟩
    | ok text => exact ⟨fun malformed other same => Except.ok.inj same ▸ malformed, fun h => h text rfl⟩

/-- The layers, the uppermost first. -/
def layers : List (Option Settings) := [fs.layer? state (some Settings.projectPath), fs.layer? state fs.userSettings]

theorem settings_eq :
    (fs.settings state).2 =
      ((fs.layer? state (some Settings.projectPath)).getD {}).orElse ((fs.layer? state fs.userSettings).getD {}) := by
  unfold settings layer?
  rw [Settings.snd_ofLayers, Option.bind_assoc, Option.bind_some]

theorem setting_eq {setting : Settings → Option α} (single : Settings.Single setting) :
    setting (fs.settings state).2 = Settings.inLayers (fs.layers state) setting := by
  rw [settings_eq]
  exact single.inLayers_eq _ _

/-- Without a layer above it, the user's layer holds as it is. -/
theorem settings_of_user (ignored : fs.layer? state (some Settings.projectPath) = none) :
    (fs.settings state).2 = (fs.layer? state fs.userSettings).getD {} := by
  rw [settings_eq, ignored]
  exact Settings.empty_orElse _

/-- Without a layer below it, the project's layer holds as it is. -/
theorem settings_of_project (ignored : fs.layer? state fs.userSettings = none) :
    (fs.settings state).2 = (fs.layer? state (some Settings.projectPath)).getD {} := by
  rw [settings_eq, ignored]
  exact Settings.orElse_empty _

variable (a : Command.Arguments)

/-- Languages that are asked for are the targets; the layers count only if there are none. -/
theorem targets_eq :
    fs.targets state a =
      if a.languages = [] then
        ((Settings.inLayers (fs.layers state) (·.languages)).getD []).filterMap Dialect.ofName?
      else a.languages := by
  rw [← fs.setting_eq state Settings.single_languages, ← Settings.snd_dialectsNamed]
  unfold targets Command.Arguments.targets
  cases a.languages <;> rfl

theorem options_eq :
    (a.options (fs.settings state).2).go =
      { storageTags := !a.withoutStorage && (Settings.inLayers (fs.layers state) (·.tags.storage)).getD true
        validationTags :=
          !a.withoutValidation && (Settings.inLayers (fs.layers state) (·.tags.validation)).getD true } := by
  rw [← fs.setting_eq state Settings.single_storage, ← fs.setting_eq state Settings.single_validation]
  unfold Command.Arguments.options Settings.goOptions
  rw [Bool.and_comm, Bool.and_comm (_ : Bool) (!a.withoutValidation)]

end FileSystem

namespace Command

/-- **Settings in layers.** Whatever the files of the project and of the user are, and whatever they hold: a kind of tag
is written in Go unless the arguments switch it off, or the first layer that settles it does, the project's before the
user's. The targets are the languages of the arguments or, if there are none, the dialects named in the first layer
that has a list of languages, be it empty; names of no dialect are passed over. A file that is no layer leaves the
other layer as it is. With these targets and options the manifest is converted, and without a target the run stops
with an error. -/
theorem settings_in_layers {σ : Type} (fs : FileSystem σ) (state : σ) (a : Arguments) :
    let project := fs.layer? state (some Settings.projectPath)
    let user := fs.layer? state fs.userSettings
    let settings := (fs.settings state).2
    let targets := fs.targets state a
    (a.options settings).go.storageTags =
      (if a.withoutStorage then false
        else (Settings.inLayers [project, user] (·.tags.storage)).getD true) ∧
    (a.options settings).go.validationTags =
      (if a.withoutValidation then false
        else (Settings.inLayers [project, user] (·.tags.validation)).getD true) ∧
    targets =
      (if a.languages = [] then
        ((Settings.inLayers [project, user] (·.languages)).getD []).filterMap Dialect.ofName?
      else a.languages) ∧
    ((∀ text, fs.read state Settings.projectPath = .ok text → Settings.parse? text = none) →
      settings = user.getD {}) ∧
    ((∀ file ∈ fs.userSettings, ∀ text, fs.read state file = .ok text → Settings.parse? text = none) →
      settings = project.getD {}) ∧
    (targets = [] →
      ∃ report, (run fs.surroundings a).run state = (report, state) ∧ report.code = 1 ∧ report.stdout = "" ∧
        report.stderr = ["error: no target language: pass --lang or set [defaults] lang in config"]) ∧
    (targets ≠ [] → ∀ manifest, fs.manifest state a.manifest = .ok manifest →
      (run fs.surroundings a).run state =
        (deliver fs.surroundings (fs.told state a)
          (Conversion.run manifest a.apps targets (a.options settings)) a.output).run state) := by
  intro project user settings targets
  have options := fs.options_eq state a
  refine ⟨?_, ?_, fs.targets_eq state a, ?_, ?_, ?_, ?_⟩
  · show (a.options (fs.settings state).2).go.storageTags = _
    rw [options]
    cases a.withoutStorage <;> rfl
  · show (a.options (fs.settings state).2).go.validationTags = _
    rw [options]
    cases a.withoutValidation <;> rfl
  · intro ignored
    refine fs.settings_of_user state ((fs.layer?_eq_none_iff state _).mpr fun file own => ?_)
    rwa [← Option.some.inj own]
  · intro ignored
    exact fs.settings_of_project state ((fs.layer?_eq_none_iff state _).mpr ignored)
  · intro untargeted
    exact ⟨_, fs.run_of_noTarget state a untargeted, rfl, rfl, rfl⟩
  · intro targeted manifest read
    exact FileSystem.run_of_read targeted read

/-- A directory with a file of settings for a user, and one for a project. -/
def settled (user project : String) : Tree :=
  .ofFiles [] [(["user.toml"], user.toUTF8), ([".ormgen", "config.toml"], project.toUTF8)]

/-- What a user may settle. -/
def userFile : String := "[gorm]
storage_tags = false

[defaults]
lang = [\"KT\", \"cobol\", \"go\", \"kt\"]
"

theorem layers_settled (user project : String) :
    (Tree.fileSystem [] (decode .empty) (some "user.toml")).layers (settled user project) =
      [Settings.parse? project, Settings.parse? user] := by
  have upper_place : (settled user project).place [] Settings.projectPath = .ok [".ormgen", "config.toml"] := rfl
  have lower_place : (settled user project).place [] "user.toml" = .ok ["user.toml"] := rfl
  have upper : (settled user project).read [] Settings.projectPath = .ok project :=
    Tree.read_of_place upper_place rfl rfl
  have lower : (settled user project).read [] "user.toml" = .ok user := Tree.read_of_place lower_place rfl rfl
  simp only [FileSystem.layers, FileSystem.layer?, Tree.fileSystem, Option.bind_some, upper, lower, Except.toOption]

/-- A malformed file of a project hides nothing that the user has settled. One with an empty list of languages hides
the user's languages, but not what the user has settled about tags. -/
theorem settings_in_layers_settled :
    let fs := Tree.fileSystem [] (decode .empty) (some "user.toml")
    let a : Arguments := { manifest := "-", apps := ["blog"], withoutValidation := true }
    let malformed := settled userFile "[defaults"
    let silent := settled userFile "[defaults]\nlang = []"
    fs.targets malformed a = [.kotlin, .go, .kotlin] ∧
      (a.options (fs.settings silent).2).go.storageTags = false ∧
      (a.options (fs.settings silent).2).go.validationTags = false ∧
      fs.targets silent a = [] ∧
      ∃ report, (run fs.surroundings a).run silent = (report, silent) ∧ report.code = 1 := by
  intro fs a malformed silent
  let user : Settings := ⟨⟨some false, none⟩, some ["KT", "cobol", "go", "kt"]⟩
  have own : Settings.parse? userFile = some user := by cbv
  have faulty : Settings.parse? "[defaults" = none := by decide +kernel
  have empty : Settings.parse? "[defaults]\nlang = []" = some ⟨{}, some []⟩ := by cbv
  have first : fs.layers malformed = [none, some user] := by rw [layers_settled, faulty, own]
  have second : fs.layers silent = [some ⟨{}, some []⟩, some user] := by rw [layers_settled, empty, own]
  obtain ⟨-, -, named, -⟩ := settings_in_layers fs malformed a
  obtain ⟨storage, validation, unnamed, -, -, stopped, -⟩ := settings_in_layers fs silent a
  rw [← FileSystem.layers, first] at named
  rw [← FileSystem.layers, second] at storage unnamed
  obtain ⟨report, ran, code, -⟩ := stopped unnamed
  exact ⟨named.trans (by decide +kernel), storage, validation, unnamed, report, ran, code⟩

end Command

end EntityGen
