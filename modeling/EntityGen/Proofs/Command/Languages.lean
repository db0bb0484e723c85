import EntityGen.Proofs.Command.Delivery
import EntityGen.Proofs.Command.Preceding
import EntityGen.Proofs.Identifier.Casing
import EntityGen.Proofs.Tree.Clear
import Mathlib

/-!
Languages that are asked for and languages that are settled. The option and the settings know a language by the same
names, except that the settings do not look at case (`ofName?_eq_language`). So a run that is asked for languages and
one whose project settles them do the same (`languages_asked_or_settled`), as long as the project's settings are not in
the way of the run's own files. -/
namespace EntityGen
open Text

/-! ### The names of languages -/

namespace Command

/-- A name in lowercase, as far as ASCII goes. -/
def lowered (name : String) : String := String.ofList (caseless name.toList)

/-- The settings know a language by the names that the option takes, in any case. -/
theorem ofName?_eq_language (name : String) : Dialect.ofName? name = (Draft.language (lowered name)).toOption := by
  have tables : languageNames = Dialect.aliases := rfl
  unfold Dialect.ofName? Dialect.ofAlias? Draft.language
  rw [tables]
  show Dialect.aliases.lookup (lowered name) = _
  cases Dialect.aliases.lookup (lowered name) <;> rfl

/-- The option takes names in lowercase only. -/
theorem lowered_of_language {name : String} {dialect : Dialect} (h : Draft.language name = .ok dialect) :
    lowered name = name := by
  have small : ∀ entry ∈ languageNames, lowered entry.1 = entry.1 := by decide
  exact small (name, dialect) (mem_languageNames_of_language h)

theorem ofName?_of_language {name : String} {dialect : Dialect} (h : Draft.language name = .ok dialect) :
    Dialect.ofName? name = some dialect := by
  rw [ofName?_eq_language, lowered_of_language h, h]
  rfl

/-- Names that the option takes are settled to the same languages, and nothing is told of them. -/
theorem dialectsNamed_of_languages {names : List String} {dialects : List Dialect}
    (known : names.mapM Draft.language = .ok dialects) : Settings.dialectsNamed names = ([], dialects) := by
  have one_by_one := mapM_eq_ok_iff.mp known
  clear known
  induction one_by_one with
  | nil => rfl
  | cons first _ ih =>
    rw [Settings.dialectsNamed, ih, ofName?_of_language first]

end Command

/-! ### Runs that find the same -/

namespace FileSystem
variable {σ : Type} {fs : FileSystem σ} {state other : σ} {a b : Command.Arguments}

/-- A text can be written to a path in both states or in neither, and then for the same reason. -/
def WritesAlike (fs : FileSystem σ) (state other : σ) (path text : String) : Prop :=
  (∃ fault, fs.write state path text = .error fault ∧ fs.write other path text = .error fault) ∨
    ∃ after after', fs.write state path text = .ok after ∧ fs.write other path text = .ok after'

/-- Neither state has changed, or the same text has been written to the same path in both. -/
def ChangedAlike (fs : FileSystem σ) (output : Option String) (state other after after' : σ) : Prop :=
  (after = state ∧ after' = other) ∨
    ∃ path ∈ output, ∃ text, fs.write state path text = .ok after ∧ fs.write other path text = .ok after'

theorem deliver_congr (events : List Event) (c : Conversion) {output : Option String}
    (writes : ∀ path ∈ output, WritesAlike fs state other path c.text) :
    let first := (Command.deliver fs.surroundings events c output).run state
    let second := (Command.deliver fs.surroundings events c output).run other
    first.1 = second.1 ∧ fs.ChangedAlike output state other first.2 second.2 := by
  cases output with
  | none => exact ⟨rfl, .inl ⟨rfl, rfl⟩⟩
  | some path =>
    rcases writes path rfl with ⟨fault, failed, failed'⟩ | ⟨after, after', written, written'⟩
    · rw [deliver_unwritten failed, deliver_unwritten failed']
      exact ⟨rfl, .inl ⟨rfl, rfl⟩⟩
    · rw [deliver_written written, deliver_written written']
      exact ⟨rfl, .inr ⟨path, rfl, c.text, written, written'⟩⟩

theorem manifest_congr {path : String} (same : path ≠ "-" → fs.read other path = fs.read state path) :
    fs.manifest other path = fs.manifest state path := by
  unfold manifest
  split
  · rfl
  · next named => rw [same named]

/-- What a run does is decided by what it finds. -/
theorem run_congr (targets : fs.targets other b = fs.targets state a) (told : fs.told other b = fs.told state a)
    (options : b.options (fs.settings other).2 = a.options (fs.settings state).2)
    (manifest : fs.manifest other b.manifest = fs.manifest state a.manifest) (apps : b.apps = a.apps)
    (output : b.output = a.output)
    (writes : ∀ path ∈ a.output, ∀ text, WritesAlike fs state other path text) :
    let first := (Command.run fs.surroundings a).run state
    let second := (Command.run fs.surroundings b).run other
    first.1 = second.1 ∧ fs.ChangedAlike a.output state other first.2 second.2 := by
  intro first second
  have same : ∀ manifest, fs.conversion other b manifest = fs.conversion state a manifest := fun manifest => by
    rw [conversion, conversion, apps, targets, options]
  show ((Command.run fs.surroundings a).run state).1 = ((Command.run fs.surroundings b).run other).1 ∧ _
  simp only [first, second, run_eq, targets, told, manifest, output, same]
  split
  · exact ⟨rfl, .inl ⟨rfl, rfl⟩⟩
  · split
    · exact ⟨rfl, .inl ⟨rfl, rfl⟩⟩
    · exact deliver_congr _ _ fun path hp => writes path hp _

end FileSystem

/-! ### Languages of a project -/

/-- The directory with a project's settings, from the project's directory. -/
def Settings.projectDirectory : String := ".ormgen"

/-- The settings in a layer that holds some, or in none. -/
theorem Settings.ofLayer_of_parse {text : String} {settings : Settings} (h : parse? text = some settings) :
    ofLayer (some text) = ([], settings) := by
  rw [ofLayer, h]

namespace Tree
variable {tree after : Tree} {here : Place} {names : List String}

/-- These are the project's settings: those in their file, or none if there is no file. -/
def ProjectHas (tree : Tree) (here : Place) (settings : Settings) : Prop :=
  (∃ text, tree.read here Settings.projectPath = .ok text ∧ Settings.parse? text = some settings) ∨
    tree.read here Settings.projectPath = .error .notFound ∧ settings = {}

/-- The same tree, with languages of these names settled in the project, and its other settings kept. The file with
the settings is written over, or it is new, and its directory may be new with it. -/
structure Sets (tree : Tree) (here : Place) (names : List String) (after : Tree) : Prop where
  settings : ∃ old, tree.ProjectHas here old ∧ ∃ text, after.read here Settings.projectPath = .ok text ∧
    Settings.parse? text = some { old with languages := some names }
  directories : ∀ p, p ≠ here ++ [Settings.projectDirectory] → after.isDirectory p = tree.isDirectory p
  files : ∀ p, p ≠ here ++ [Settings.projectDirectory, "config.toml"] → after.file? p = tree.file? p

theorem Sets.differsBelow (h : tree.Sets here names after) :
    tree.DiffersBelow after here Settings.projectDirectory where
  directories p outside := h.directories p fun same => outside (same ▸ List.prefix_refl _)
  files p outside := h.files p fun same =>
    outside (same ▸ ⟨["config.toml"], by rw [List.append_assoc, List.singleton_append]⟩)

/-- The run's own files are not affected: its manifest and the user's settings read the same, and what it writes goes
to the same place, a directory in both trees or in neither. -/
structure LeavesAlone (tree after : Tree) (here : Place) (userSettings : Option String) (a : Command.Arguments) :
    Prop where
  manifest : a.manifest ≠ "-" → after.read here a.manifest = tree.read here a.manifest
  user : ∀ path ∈ userSettings, after.read here path = tree.read here path
  output : ∀ path ∈ a.output, after.target here path = tree.target here path ∧
    ∀ place, tree.target here path = .ok place → after.isDirectory place = tree.isDirectory place

/-- Paths that do not name the directory with the project's settings are not affected. -/
theorem Sets.leavesAlone (h : tree.Sets here names after) {userSettings : Option String} {a : Command.Arguments}
    (manifest : Settings.projectDirectory ∉ Tree.names a.manifest)
    (user : ∀ path ∈ userSettings, Settings.projectDirectory ∉ Tree.names path)
    (output : ∀ path ∈ a.output, Settings.projectDirectory ∉ Tree.names path) :
    tree.LeavesAlone after here userSettings a where
  manifest _ := h.differsBelow.read_of_unnamed manifest
  user path hp := h.differsBelow.read_of_unnamed (user path hp)
  output path hp := by
    refine ⟨h.differsBelow.target_of_unnamed (by decide) (output path hp), fun place target => ?_⟩
    have outside := (h.differsBelow.place_eq (output path hp)).2 place (place_of_target target)
    exact h.differsBelow.directories place outside

variable {input : Except FileFault String} {userSettings : Option String} {a : Command.Arguments}

/-- Nothing has changed in what holds but the languages. -/
theorem Sets.settings_eq (h : tree.Sets here names after)
    (own : ∀ path ∈ userSettings, after.read here path = tree.read here path) :
    (fileSystem here input userSettings).settings after =
      (((fileSystem here input userSettings).settings tree).1,
        { ((fileSystem here input userSettings).settings tree).2 with languages := some names }) := by
  obtain ⟨old, held, text, read, settled⟩ := h.settings
  have user : (userSettings.bind fun path => (after.read here path).toOption) =
      userSettings.bind fun path => (tree.read here path).toOption :=
    Option.bind_congr fun path hp => by rw [own path hp]
  have before : Settings.ofLayer (tree.read here Settings.projectPath).toOption = ([], old) := by
    rcases held with ⟨text, read, settled⟩ | ⟨missing, rfl⟩
    · rw [read]
      exact Settings.ofLayer_of_parse settled
    · rw [missing]
      rfl
  show Settings.ofLayers (userSettings.bind fun path => (after.read here path).toOption)
      (after.read here Settings.projectPath).toOption =
    ((Settings.ofLayers (userSettings.bind fun path => (tree.read here path).toOption)
        (tree.read here Settings.projectPath).toOption).1,
      { (Settings.ofLayers (userSettings.bind fun path => (tree.read here path).toOption)
        (tree.read here Settings.projectPath).toOption).2 with languages := some names })
  rw [user, read, Except.toOption, Settings.ofLayers, Settings.ofLayer_of_parse settled, Settings.ofLayers, before]
  rfl

section Alone
variable (alone : tree.LeavesAlone after here userSettings a)
include alone

theorem LeavesAlone.manifest_eq :
    (fileSystem here input userSettings).manifest after a.manifest =
      (fileSystem here input userSettings).manifest tree a.manifest :=
  FileSystem.manifest_congr alone.manifest

theorem LeavesAlone.writesAlike :
    ∀ path ∈ a.output, ∀ text, (fileSystem here input userSettings).WritesAlike tree after path text := by
  intro path hp text
  obtain ⟨target, directory⟩ := alone.output path hp
  show (∃ fault, tree.write here path text = .error fault ∧ after.write here path text = .error fault) ∨
    ∃ first second, tree.write here path text = .ok first ∧ after.write here path text = .ok second
  unfold Tree.write
  rw [target]
  cases there : tree.target here path with
  | error fault => exact .inl ⟨fault, rfl, rfl⟩
  | ok place =>
    simp only [bind, Except.bind, directory place there]
    by_cases taken : tree.isDirectory place = true
    · exact .inl ⟨.isDirectory, by simp [taken, throw, throwThe, MonadExceptOf.throw]⟩
    · exact .inr ⟨_, _, by simp [taken]; rfl, by simp [taken]; rfl⟩

/-- A run that is asked for languages does what it does without, where they are settled. -/
theorem Sets.run_eq (h : tree.Sets here names after) {dialects : List Dialect} (some_language : dialects ≠ [])
    (known : names.mapM Command.Draft.language = .ok dialects) (unasked : a.languages = []) :
    let fs := fileSystem here input userSettings
    let first := (Command.run fs.surroundings (a.precede dialects)).run tree
    let second := (Command.run fs.surroundings a).run after
    first.1 = second.1 ∧ fs.ChangedAlike a.output tree after first.2 second.2 := by
  intro fs
  have settings : fs.settings after = ((fs.settings tree).1, { (fs.settings tree).2 with languages := some names }) :=
    h.settings_eq alone.user
  have asked : (a.precede dialects).targets (fs.settings tree).2 = ([], dialects) := by
    obtain ⟨first, rest, rfl⟩ := List.exists_cons_of_ne_nil some_language
    rw [Command.Arguments.targets, Command.Arguments.precede, unasked, List.append_nil]
    rfl
  have settled : a.targets (fs.settings after).2 = ([], dialects) := by
    rw [Command.Arguments.targets, unasked, settings]
    exact Command.dialectsNamed_of_languages known
  refine FileSystem.run_congr ?_ ?_ ?_ alone.manifest_eq rfl rfl
    fun path hp text => alone.writesAlike path hp text
  · rw [FileSystem.targets, FileSystem.targets, asked, settled]
  · rw [FileSystem.told, FileSystem.told, asked, settled, settings]
  · rw [settings]
    rfl

end Alone

end Tree

/-! ### Languages of a command line -/

namespace Command

/-- Nothing but a comma is one in lowercase. -/
theorem eq_comma_of_toLower {c : Char} (h : c.toLower = ',') : c = ',' := by
  unfold Char.toLower at h
  split at h
  · next upper =>
    -- A capital would be moved to the letters.
    have value := congrArg (fun d : Char => d.val.toNat) h
    simp only [UInt32.le_iff_toNat_le, ge_iff_le] at upper
    simp [UInt32.toNat_add] at value upper
    omega
  · exact h

theorem comma_not_mem_lowered {name : String} (single : ',' ∉ name.toList) : ',' ∉ (lowered name).toList := by
  rw [lowered, String.toList_ofList]
  intro comma
  obtain ⟨c, hc, small⟩ := List.mem_map.mp comma
  exact single (eq_comma_of_toLower small ▸ hc)

/-- A name in the option is a language if the settings know it in lowercase, and else a mistake. -/
theorem parse_language_first {name : String} (single : ',' ∉ name.toList) (words : List String) :
    Arguments.parse (("--lang=" ++ lowered name) :: words) =
      match Dialect.ofName? name with
      | some dialect => (Arguments.parse words).map (Arguments.precede [dialect])
      | none => .error (.invalidLanguage (lowered name)) := by
  rw [parse_languages_first, Draft.values_of_not_mem (comma_not_mem_lowered single), mapM_cons_eq,
    ofName?_eq_language]
  unfold Draft.language
  cases languageNames.lookup (lowered name) <;> rfl

/-- Names that the option takes can be given in one word. -/
theorem parse_names_first {names : List String} {dialects : List Dialect} (some_name : names ≠ [])
    (known : names.mapM Draft.language = .ok dialects) (words : List String) :
    Arguments.parse (("--lang=" ++ sepBy "," names) :: words) =
      (Arguments.parse words).map (Arguments.precede dialects) := by
  have plain : ∀ name ∈ names, ',' ∉ name.toList := fun name hn =>
    have ⟨_, taken⟩ := exists_mapM_eq_ok_iff.mp ⟨dialects, known⟩ name hn
    (isName_of_language taken).2.1
  rw [parse_languages_first, Draft.values_sepBy some_name plain, known]
  rfl

/-! ### A blog with settings -/

/-- The blog, and a file with settings of the project. -/
def settledBlog (settings : String) : Tree :=
  .ofFiles [] (([".ormgen", "config.toml"], settings.toUTF8) :: Tree.blog.files)

theorem read_settledBlog (settings : String) : (settledBlog settings).read [] Settings.projectPath = .ok settings := by
  have place : (settledBlog settings).place [] Settings.projectPath = .ok [".ormgen", "config.toml"] := rfl
  exact Tree.read_of_place place rfl rfl

theorem file?_settledBlog (settings : String) {p : Place} (h : p ≠ [".ormgen", "config.toml"]) :
    (settledBlog settings).file? p = Tree.blog.file? p := by
  show List.lookup p ((_, _) :: _) = _
  rw [List.lookup_cons, beq_eq_false_iff_ne.mpr h]
  rfl

/-- Settings for the blog that are new. -/
theorem sets_blog {settings : String} {names : List String}
    (settled : Settings.parse? settings = some { languages := some names }) :
    Tree.blog.Sets [] names (settledBlog settings) where
  settings := ⟨{}, .inr ⟨rfl, rfl⟩, settings, read_settledBlog settings, settled⟩
  directories p other := by
    have root : (settledBlog settings).isDirectory p = [[], [], [".ormgen"], []].contains p := rfl
    have alone : Tree.blog.isDirectory p = [[], []].contains p := rfl
    rw [root, alone]
    simp_all [Settings.projectDirectory]
  files _ other := file?_settledBlog settings other

/-- Other settings for the blog that are settled already. -/
theorem sets_settledBlog {before after : String} {old : Settings} {names : List String}
    (held : Settings.parse? before = some old)
    (settled : Settings.parse? after = some { old with languages := some names }) :
    (settledBlog before).Sets [] names (settledBlog after) where
  settings := ⟨old, .inl ⟨before, read_settledBlog before, held⟩, after, read_settledBlog after, settled⟩
  directories _ _ := rfl
  files _ other := (file?_settledBlog after other).trans (file?_settledBlog before other).symm

/-! ### Asked for or settled -/

/-- **Languages are asked for or settled.** The settings know a language by the names that the option takes, in any
case, and by no others. Put in front of a command line, a name is a language for the option exactly if it is one for
the settings. Names that the option takes do the same in front of a command line without languages as in the project's
settings: code, standard output, standard error and events are the same, and the same text is written to the same path
or none. But the change to the settings must not affect the run's own files. -/
theorem languages_asked_or_settled :
    (∀ name, Dialect.ofName? name = (Draft.language (lowered name)).toOption) ∧
    (∀ name words, ',' ∉ name.toList →
      Arguments.parse (("--lang=" ++ lowered name) :: words) =
        match Dialect.ofName? name with
        | some dialect => (Arguments.parse words).map (Arguments.precede [dialect])
        | none => .error (.invalidLanguage (lowered name))) ∧
    ∀ names, names ≠ [] → (∀ name ∈ names, ∃ dialect, Draft.language name = .ok dialect) →
      ∃ dialects, names.mapM Draft.language = .ok dialects ∧
        (∀ words, Arguments.parse (("--lang=" ++ sepBy "," names) :: words) =
          (Arguments.parse words).map (Arguments.precede dialects)) ∧
        ∀ (tree after : Tree) (here : Place) (input : ByteArray) (userSettings : Option String) (a : Arguments),
          a.languages = [] → tree.Sets here names after → tree.LeavesAlone after here userSettings a →
          let first := (run (Tree.surroundings here input userSettings) (a.precede dialects)).run tree
          let second := (run (Tree.surroundings here input userSettings) a).run after
          first.1 = second.1 ∧
            ((first.2 = tree ∧ second.2 = after) ∨ ∃ path ∈ a.output, ∃ text,
              tree.Replaced here path text first.2 ∧ after.Replaced here path text second.2) := by
  refine ⟨ofName?_eq_language, fun name words single => parse_language_first single words,
    fun names some_name taken => ?_⟩
  obtain ⟨dialects, known⟩ := exists_mapM_eq_ok_iff.mpr taken
  have some_language : dialects ≠ [] := by
    rintro rfl
    exact some_name (List.forall₂_nil_right_iff.mp (mapM_eq_ok_iff.mp known))
  refine ⟨dialects, known, parse_names_first some_name known,
    fun tree after here input userSettings a unasked sets alone => ?_⟩
  rw [Tree.surroundings_eq]
  obtain ⟨report, files⟩ := Tree.Sets.run_eq alone sets some_language known unasked
  refine ⟨report, files.imp id ?_⟩
  rintro ⟨path, hp, text, first, second⟩
  exact ⟨path, hp, text, Tree.replaced_of_write first, Tree.replaced_of_write second⟩

/-- A project that wants no tags for the storage settles two languages by three names, and keeps that it wants none. -/
theorem languages_asked_or_settled_blog :
    let before := settledBlog "[gorm]\nstorage_tags = false"
    let after := settledBlog "[gorm]\nstorage_tags = false\n[defaults]\nlang = [\"kt\", \"gorm\", \"java\"]"
    let a : Arguments := { manifest := "models.yaml", apps := ["blog"], output := some "models" }
    let first := (run (Tree.surroundings [] .empty none) { a with languages := [.kotlin, .go, .kotlin] }).run before
    let second := (run (Tree.surroundings [] .empty none) a).run after
    Arguments.parse ["--lang=kt,gorm,java", "models.yaml", "-a", "blog", "-o", "models"] =
        .ok { a with languages := [.kotlin, .go, .kotlin] } ∧
      first.1 = second.1 := by
  intro before after a first second
  have old : Settings.parse? "[gorm]\nstorage_tags = false" = some ⟨⟨some false, none⟩, none⟩ := by cbv
  have new : Settings.parse? "[gorm]\nstorage_tags = false\n[defaults]\nlang = [\"kt\", \"gorm\", \"java\"]" =
      some ⟨⟨some false, none⟩, some ["kt", "gorm", "java"]⟩ := by cbv
  have sets : before.Sets [] ["kt", "gorm", "java"] after := sets_settledBlog old new
  have alone : before.LeavesAlone after [] none a := sets.leavesAlone (by decide) (by simp) (by decide)
  have listed : ∀ name ∈ ["kt", "gorm", "java"], ∃ dialect, Draft.language name = .ok dialect := by
    simp only [List.forall_mem_cons]
    exact ⟨⟨_, rfl⟩, ⟨_, rfl⟩, ⟨_, rfl⟩, List.forall_mem_nil _⟩
  obtain ⟨-, -, same⟩ := languages_asked_or_settled
  obtain ⟨dialects, known, spelled, runs⟩ := same ["kt", "gorm", "java"] (by decide) listed
  obtain rfl : [.kotlin, .go, .kotlin] = dialects := Except.ok.inj known
  refine ⟨?_, (runs before after [] .empty none a rfl sets alone).1⟩
  exact spelled ["models.yaml", "-a", "blog", "-o", "models"]

/-- A run that is asked for Kotlin writes the blog to a file of the very name that the directory for the project's
settings has. With Kotlin in new settings, the directory is in its way. -/
theorem settings_in_the_way :
    let after := settledBlog "[defaults]\nlang = [\"kotlin\"]"
    let a : Arguments := { manifest := "models.yaml", apps := ["blog"], output := some ".ormgen" }
    let first := (run (Tree.surroundings [] .empty none) { a with languages := [.kotlin] }).run Tree.blog
    let second := (run (Tree.surroundings [] .empty none) a).run after
    ["kotlin"].mapM Draft.language = .ok [.kotlin] ∧ Tree.blog.Sets [] ["kotlin"] after ∧
      first.1.code = 0 ∧ first.1.stderr = ["Generated .ormgen"] ∧
      second.1.code = 1 ∧ second.1.stderr = ["error: failed to write .ormgen: Is a directory (os error 21)"] := by
  intro after a first second
  let fs := Tree.fileSystem [] (decode .empty) none
  let asking : Arguments := { a with languages := [.kotlin] }
  have settled : Settings.parse? "[defaults]\nlang = [\"kotlin\"]" = some { languages := some ["kotlin"] } := by cbv
  have sets : Tree.blog.Sets [] ["kotlin"] after := sets_blog settled
  have delivers : ∃ written, first =
      (.delivered (fs.told Tree.blog asking) (fs.conversion Tree.blog asking Manifest.blog) (some ".ormgen"),
        written) := by
    have targeted : fs.targets Tree.blog asking ≠ [] := by decide
    have read : fs.manifest Tree.blog asking.manifest = .ok Manifest.blog := manifest_blog
    obtain ⟨written, delivered, -⟩ := run_of_writable targeted read fun path output => by
      cases output
      exact ⟨_, rfl⟩
    refine ⟨written, ?_⟩
    rw [← delivered]
    simp only [first, Tree.surroundings_eq]
    rfl
  have stops : second =
      (.aborted (fs.told after a ++ (fs.conversion after a Manifest.blog).events) (.unwritten ".ormgen" .isDirectory),
        after) := by
    have settings : fs.settings after =
        ((fs.settings Tree.blog).1, { (fs.settings Tree.blog).2 with languages := some ["kotlin"] }) :=
      sets.settings_eq (by simp)
    have targeted : fs.targets after a ≠ [] := by
      show (a.targets (fs.settings after).2).2 ≠ []
      rw [settings]
      decide +kernel
    have read : fs.manifest after a.manifest = .ok Manifest.blog :=
      (FileSystem.manifest_congr fun _ => sets.differsBelow.read_of_unnamed (by decide)).trans manifest_blog
    simp only [second, Tree.surroundings_eq]
    exact (FileSystem.run_of_read targeted read).trans (FileSystem.deliver_unwritten rfl)
  have clean : (fs.conversion Tree.blog asking Manifest.blog).failures = [] := by decide +kernel
  obtain ⟨written, delivered⟩ := delivers
  rw [delivered, stops]
  refine ⟨rfl, sets, (code_delivered ..).trans (if_pos clean), ?_, rfl, by decide⟩
  show ["Generated .ormgen"] ++ List.map _ _ = _
  rw [clean]
  rfl

end Command

end EntityGen
