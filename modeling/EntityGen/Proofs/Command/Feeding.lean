import EntityGen.Proofs.Command.Delivery

/-!
Manifests fed to a run and manifests in files. A run reads its manifest from the file that it names, or else from
the text that is fed to it; these are two ways to the same reader, provided that the name of the file does not
tell another format than the text. So a run with a file and one that is fed the file's text end alike
(`fed_as_loaded`), whatever the text is, and also where the run writes over the file. -/
namespace EntityGen

namespace FileSystem
variable {σ : Type} {fs : FileSystem σ} {state : σ} {path text : String}

/-- The same files, and a text that is fed to the runs in it. -/
def feed (fs : FileSystem σ) (text : String) : FileSystem σ := { fs with input := .ok text }

/-- A file whose name does not speak against its text is read by what the text tells. -/
theorem manifest_of_file (named : path ≠ "-") (holds : fs.read state path = .ok text)
    (format : Manifest.Format.ofFile path text = Manifest.Format.sniff text) :
    fs.manifest state path =
      (Manifest.parse (Manifest.Format.sniff text) text).mapError fun fault => .unloaded path (.text fault) := by
  unfold manifest
  rw [if_neg named, holds, Manifest.ofFile, format]
  cases Manifest.parse (Manifest.Format.sniff text) text <;> rfl

theorem manifest_of_feed :
    (fs.feed text).manifest state "-" =
      (Manifest.parse (Manifest.Format.sniff text) text).mapError .invalidInput := rfl

variable {a : Command.Arguments}

/-- Where a manifest comes from does not change what is done with it. -/
theorem run_feed_of_read {manifest : Manifest} (loaded : fs.manifest state a.manifest = .ok manifest)
    (fed : (fs.feed text).manifest state "-" = .ok manifest) :
    (Command.run fs.surroundings a).run state =
      (Command.run (fs.feed text).surroundings { a with manifest := "-" }).run state := by
  have same : (fs.feed text).targets state { a with manifest := "-" } = fs.targets state a := rfl
  by_cases untargeted : fs.targets state a = []
  · rw [run_of_noTarget fs state a untargeted, run_of_noTarget _ _ _ (same.trans untargeted)]
    rfl
  · rw [run_of_read untargeted loaded, run_of_read (same ▸ untargeted) fed]
    rfl

/-- Runs without a manifest differ in the error that they report, and that only if they have a target. -/
theorem run_feed_of_unread {abort other : Command.Abort}
    (loaded : fs.manifest state a.manifest = .error abort)
    (fed : (fs.feed text).manifest state "-" = .error other) :
    ∃ first second events, (Command.run fs.surroundings a).run state = (.aborted events first, state) ∧
      (Command.run (fs.feed text).surroundings { a with manifest := "-" }).run state =
        (.aborted events second, state) := by
  have same : (fs.feed text).targets state { a with manifest := "-" } = fs.targets state a := rfl
  by_cases untargeted : fs.targets state a = []
  · exact ⟨.noTarget, .noTarget, fs.told state a, run_of_noTarget fs state a untargeted,
      run_of_noTarget _ _ _ (same.trans untargeted)⟩
  · exact ⟨abort, other, fs.told state a, run_of_unread untargeted loaded,
      run_of_unread (same ▸ untargeted) fed⟩

end FileSystem

namespace Command

/-- **A manifest can be fed or loaded.** Let a file hold a text, and let its name tell the format that the text
tells, or none. A run that loads the file and one that is fed the text have the same code and the same standard
output, tell the same events and leave the same files. If the text is a manifest, they report the same in all. -/
theorem fed_as_loaded (tree : Tree) (here : Place) (input : ByteArray) (userSettings : Option String)
    (a : Arguments) (text : String) (named : a.manifest ≠ "-")
    (holds : tree.read here a.manifest = .ok text)
    (format : Manifest.Format.ofPath? a.manifest = none ∨
      Manifest.Format.ofPath? a.manifest = some (Manifest.Format.sniff text)) :
    let loaded := (run (Tree.surroundings here input userSettings) a).run tree
    let fed := (run (Tree.surroundings here text.toUTF8 userSettings) { a with manifest := "-" }).run tree
    loaded.1.code = fed.1.code ∧ loaded.1.stdout = fed.1.stdout ∧ loaded.1.events = fed.1.events ∧
      loaded.2 = fed.2 ∧
      ∀ manifest, Manifest.parse (Manifest.Format.sniff text) text = .ok manifest → loaded.1 = fed.1 := by
  intro loaded fed
  let fs := Tree.fileSystem here (decode input) userSettings
  have run_loaded : loaded = (run fs.surroundings a).run tree := by
    show (run (Tree.surroundings here input userSettings) a).run tree = _
    rw [Tree.surroundings_eq]
  have run_fed : fed = (run (fs.feed text).surroundings { a with manifest := "-" }).run tree := by
    show (run (Tree.surroundings here text.toUTF8 userSettings) _).run tree = _
    rw [Tree.surroundings_eq, decode_toUTF8]
    rfl
  have told : Manifest.Format.ofFile a.manifest text = Manifest.Format.sniff text := by
    unfold Manifest.Format.ofFile
    rcases format with none | some
    · rw [none]
      rfl
    · rw [some]
      rfl
  have read : fs.manifest tree a.manifest = _ := FileSystem.manifest_of_file named holds told
  have read_fed : (fs.feed text).manifest tree "-" = _ := FileSystem.manifest_of_feed
  rw [run_loaded, run_fed]
  cases parsed : Manifest.parse (Manifest.Format.sniff text) text with
  | ok manifest =>
    rw [parsed] at read read_fed
    rw [FileSystem.run_feed_of_read read read_fed]
    exact ⟨rfl, rfl, rfl, rfl, fun _ _ => rfl⟩
  | error fault =>
    rw [parsed] at read read_fed
    obtain ⟨first, second, events, aborted, aborted_fed⟩ := FileSystem.run_feed_of_unread read read_fed
    rw [aborted, aborted_fed]
    exact ⟨rfl, rfl, rfl, rfl, nofun⟩

/-- A directory with one file, whose name does not tell that it is a manifest. -/
def models : Tree := .ofFiles [] [(["models"], "apps:\n- label: blog\n".toUTF8)]

/-- A run that writes over its manifest ends as one that is fed the manifest. -/
theorem fed_as_loaded_models :
    let a : Arguments :=
      { manifest := "models", apps := ["blog"], languages := [.go], output := some "models" }
    let loaded := (run (Tree.surroundings [] .empty none) a).run models
    let fed := (run (Tree.surroundings [] "apps:\n- label: blog\n".toUTF8 none)
      { a with manifest := "-" }).run models
    loaded.1 = fed.1 ∧ loaded.2 = fed.2 := by
  intro a loaded fed
  have place : models.place [] a.manifest = .ok ["models"] := by decide +kernel
  have content := Tree.bytes_of_place place (by decide) rfl
  have holds : models.read [] a.manifest = .ok "apps:\n- label: blog\n" := by
    rw [Tree.read, content]
    exact decode_toUTF8 "apps:\n- label: blog\n"
  have read : (Manifest.parse (Manifest.Format.sniff "apps:\n- label: blog\n")
      "apps:\n- label: blog\n").toOption.isSome = true := by decide +kernel
  obtain ⟨-, -, -, files, reports⟩ :=
    fed_as_loaded models [] .empty none a _ (by decide) holds (.inl (by decide +kernel))
  cases parsed : Manifest.parse (Manifest.Format.sniff "apps:\n- label: blog\n") "apps:\n- label: blog\n" with
  | error fault =>
    rw [parsed] at read
    exact nomatch read
  | ok manifest => exact ⟨reports manifest parsed, files⟩

end Command

end EntityGen
