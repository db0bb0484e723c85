import EntityGen.Command.Run
import EntityGen.Tree

/-!
Runs of the command in a file system: reading changes nothing in it, and neither does a write that fails. What
a run does is told by the state it starts in (`targets`, `manifest`, `conversion`): it stops without a target
(`run_of_noTarget`), without a manifest (`run_of_unread`), or it delivers a conversion (`run_of_read`). -/
namespace EntityGen

/-- Files as a state, and what is fed to the runs in it. -/
structure FileSystem (σ : Type) where
  read : σ → String → Except FileFault String
  write : σ → String → String → Except FileFault σ
  input : Except FileFault String
  userSettings : Option String

namespace FileSystem
variable {σ : Type} (fs : FileSystem σ) (state : σ)

/-- A file system as the surroundings of a run. -/
def surroundings : Surroundings (StateM σ) where
  read path := do return fs.read (← get) path
  write path text := do
    match fs.write (← get) path text with
    | .error fault => return .error fault
    | .ok after => set after; return .ok ()
  input := return fs.input
  userSettings := fs.userSettings

/-! ### What a run finds -/

/-- The settings that hold. -/
def settings : List Event × Settings :=
  Settings.ofLayers (fs.userSettings.bind fun path => (fs.read state path).toOption)
    (fs.read state Settings.projectPath).toOption

/-- The manifest that a path leads to. -/
def manifest (path : String) : Except Command.Abort Manifest :=
  if path = "-" then Command.fedManifest fs.input
  else (Manifest.ofFile path (fs.read state path)).mapError (.unloaded path)

variable (a : Command.Arguments)

def targets : List Dialect := (a.targets (fs.settings state).2).2

/-- What is told before the manifest is read. -/
def told : List Event := (fs.settings state).1 ++ (a.targets (fs.settings state).2).1

def conversion (manifest : Manifest) : Conversion :=
  Conversion.run manifest a.apps (fs.targets state a) (a.options (fs.settings state).2)

/-- Languages are targets in any order, and however often they are named. -/
theorem mem_targets_congr {languages : List Dialect} (h : ∀ d, d ∈ languages ↔ d ∈ a.languages)
    (d : Dialect) :
    d ∈ fs.targets state { a with languages } ↔ d ∈ fs.targets state a := by
  have both : languages.isEmpty = a.languages.isEmpty := by
    rw [Bool.eq_iff_iff, List.isEmpty_iff, List.isEmpty_iff]
    simp only [List.eq_nil_iff_forall_not_mem, h]
  unfold targets Command.Arguments.targets
  rw [both]
  cases a.languages.isEmpty with
  | true => exact Iff.rfl
  | false => exact h d

theorem run_load : (Settings.load fs.surroundings).run state = (fs.settings state, state) := by
  unfold Settings.load Settings.layer settings
  cases h : fs.userSettings with
  | none =>
    simp only [surroundings, h]
    rfl
  | some path =>
    simp only [surroundings, h]
    rfl

theorem run_readManifest (path : String) :
    (Command.readManifest fs.surroundings path).run state = (fs.manifest state path, state) := by
  unfold Command.readManifest manifest
  by_cases fed : path = "-"
  · rw [if_pos (beq_iff_eq.mpr fed), if_pos fed]
    rfl
  · rw [if_neg (mt beq_iff_eq.mp fed), if_neg fed]
    rfl

/-! ### What a run does -/

/-- After the settings are read, a run is decided by its targets and its manifest. -/
theorem run_eq :
    (Command.run fs.surroundings a).run state =
      if (fs.targets state a).isEmpty then (.aborted (fs.told state a) .noTarget, state)
      else match fs.manifest state a.manifest with
        | .error abort => (.aborted (fs.told state a) abort, state)
        | .ok manifest =>
          (Command.deliver fs.surroundings (fs.told state a) (fs.conversion state a manifest)
            a.output).run state := by
  have loaded := fs.run_load state
  have read := fs.run_readManifest state a.manifest
  unfold Command.run
  rw [StateT.run_bind, loaded]
  show StateT.run (if (fs.targets state a).isEmpty then _ else _) state = _
  by_cases untargeted : (fs.targets state a).isEmpty = true
  · rw [if_pos untargeted, if_pos untargeted]
    rfl
  · rw [if_neg untargeted, if_neg untargeted, StateT.run_bind, read]
    cases fs.manifest state a.manifest <;> rfl

theorem run_of_noTarget (h : fs.targets state a = []) :
    (Command.run fs.surroundings a).run state = (.aborted (fs.told state a) .noTarget, state) := by
  rw [run_eq, h]
  rfl

variable {fs state a} {abort : Command.Abort} {manifest : Manifest}

theorem run_of_unread (targeted : fs.targets state a ≠ [])
    (unread : fs.manifest state a.manifest = .error abort) :
    (Command.run fs.surroundings a).run state = (.aborted (fs.told state a) abort, state) := by
  rw [run_eq, if_neg (mt List.isEmpty_iff.mp targeted), unread]

theorem run_of_read (targeted : fs.targets state a ≠ [])
    (read : fs.manifest state a.manifest = .ok manifest) :
    (Command.run fs.surroundings a).run state =
      (Command.deliver fs.surroundings (fs.told state a) (fs.conversion state a manifest)
        a.output).run state := by
  rw [run_eq, if_neg (mt List.isEmpty_iff.mp targeted), read]

/-! ### Delivery -/

variable {events : List Event} {c : Conversion} {path text : String} {after : σ} {fault : FileFault}

theorem run_write :
    (fs.surroundings.write path text).run state =
      match fs.write state path text with
      | .error fault => (.error fault, state)
      | .ok after => (.ok (), after) := by
  unfold surroundings
  simp only [StateT.run_bind, StateT.run_get, pure_bind]
  cases fs.write state path text <;> rfl

theorem deliver_written (h : fs.write state path c.text = .ok after) :
    (Command.deliver fs.surroundings events c (some path)).run state =
      (.delivered events c (some path), after) := by
  unfold Command.deliver
  rw [StateT.run_bind, run_write, h]
  rfl

theorem deliver_unwritten (h : fs.write state path c.text = .error fault) :
    (Command.deliver fs.surroundings events c (some path)).run state =
      (.aborted (events ++ c.events) (.unwritten path fault), state) := by
  unfold Command.deliver
  rw [StateT.run_bind, run_write, h]
  rfl

end FileSystem

/-! ### Trees -/

/-- A tree as a file system, seen from one of its directories. -/
def Tree.fileSystem (here : Place) (input : Except FileFault String) (userSettings : Option String) :
    FileSystem Tree where
  read tree path := tree.read here path
  write tree path text := tree.write here path text
  input := input
  userSettings := userSettings

/-- The surroundings that a tree makes are those of its file system. -/
theorem Tree.surroundings_eq (here : Place) (input : ByteArray) (userSettings : Option String) :
    Tree.surroundings here input userSettings =
      (Tree.fileSystem here (decode input) userSettings).surroundings := by
  -- The two differ only in where they look at the result of a write.
  have same : (Tree.surroundings here input userSettings).write =
      (Tree.fileSystem here (decode input) userSettings).surroundings.write := by
    funext path text tree
    simp only [surroundings, fileSystem, FileSystem.surroundings, bind, StateT.bind, get, getThe,
      MonadStateOf.get, StateT.get, pure]
    cases tree.write here path text <;> rfl
  exact congrArg (fun write => { Tree.surroundings here input userSettings with write }) same

end EntityGen
