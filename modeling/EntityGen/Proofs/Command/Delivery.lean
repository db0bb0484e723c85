import EntityGen.Proofs.Command.FileSystem
import EntityGen.Proofs.Conversion.Accounting
import EntityGen.Proofs.Tree.ReadBack

/-!
What a run of the command leaves behind. A run that is stopped leaves one report of an error, and every file as
it was (`run_stopped`). Any other run delivers the text of its conversion to one place, with a line for each
model that failed (`run_delivers`). -/
namespace EntityGen

/-! ### The text of a conversion -/

namespace Conversion

/-- The text is that in Go and behind it that in Kotlin. -/
theorem text_eq (c : Conversion) :
    c.text = (c.output? .go).getD "" ++ (c.output? .kotlin).getD "" := by
  unfold text outputs Dialect.all
  cases inGo : c.output? .go <;> cases inKotlin : c.output? .kotlin <;> simp [inGo, inKotlin]

/-- The text does not depend on the order of the targets, nor on how often they are named. -/
theorem text_run_targets (manifest : Manifest) (apps : List String) (options : Options)
    {targets others : List Dialect} (h : ∀ d, d ∈ others ↔ d ∈ targets) :
    (run manifest apps others options).text = (run manifest apps targets options).text := by
  simp only [text_eq, output?_run, h]

end Conversion

/-! ### A blog -/

/-- A directory with one file, which is a manifest. -/
def Tree.blog : Tree :=
  .ofFiles [] [(["models.yaml"], "apps:
- label: blog
  models:
  - name: Post
    db_table: post
    fields:
    - name: title
      kind: CharField
".toUTF8)]

/-- That manifest. Posts can be written in Kotlin; for Go, a title would have to have a length. -/
def Manifest.blog : Manifest :=
  ⟨[⟨"blog", [⟨"Post", "post", [{ name := "title", kind := "CharField" }]⟩]⟩]⟩

/-- The blog in Kotlin. -/
def blogInKotlin : String :=
  "@Entity
@Table(name = \"post\")
class Post (

    @NotNull
    var title: String,
)

"

theorem manifest_blog :
    (Tree.fileSystem [] (decode .empty) none).manifest Tree.blog "models.yaml" = .ok Manifest.blog := by
  have read : ((Tree.fileSystem [] (decode .empty) none).manifest Tree.blog "models.yaml").toOption =
      some Manifest.blog := by decide +kernel
  revert read
  cases (Tree.fileSystem [] (decode .empty) none).manifest Tree.blog "models.yaml" with
  | error abort => exact nofun
  | ok manifest => exact fun read => congrArg _ (Option.some.inj read)

namespace Command

/-- Asks for a file with the blog in both languages. -/
def Arguments.blog : Arguments where
  manifest := "models.yaml"
  apps := ["blog"]
  languages := [.kotlin, .go, .kotlin]
  output := some "post.kt"

/-! ### Runs that stop -/

/-- **A run that is stopped leaves everything as it was.** Without a target, without a manifest, or with a file
that cannot be written, a run reports one error and nothing else, and its files are those before it. That
there is no target is reported whatever the manifest is, and what is wrong with the manifest before anything
is written. -/
theorem run_stopped {σ : Type} (fs : FileSystem σ) (state : σ) (a : Arguments)
    (h : fs.targets state a = [] ∨ (∃ abort, fs.manifest state a.manifest = .error abort) ∨
      ∃ manifest path fault, fs.manifest state a.manifest = .ok manifest ∧ a.output = some path ∧
        fs.write state path (fs.conversion state a manifest).text = .error fault) :
    ∃ report, ∃ abort : Abort, (run fs.surroundings a).run state = (report, state) ∧ report.code = 1 ∧
      report.stdout = "" ∧ report.stderr = ["error: " ++ abort.message] ∧
      (fs.targets state a = [] → abort = .noTarget) ∧
      ∀ fault, fs.targets state a ≠ [] → fs.manifest state a.manifest = .error fault → abort = fault := by
  by_cases untargeted : fs.targets state a = []
  · exact ⟨_, .noTarget, fs.run_of_noTarget state a untargeted, rfl, rfl, rfl, fun _ => rfl,
      fun _ targeted => absurd untargeted targeted⟩
  · rcases h.resolve_left untargeted with ⟨abort, unread⟩ | ⟨manifest, path, fault, read, output, unwritten⟩
    · have stopped := FileSystem.run_of_unread untargeted unread
      refine ⟨_, abort, stopped, rfl, rfl, rfl, fun h => absurd h untargeted, ?_⟩
      intro other _ same
      exact Except.error.inj (unread.symm.trans same)
    · have delivered := FileSystem.run_of_read untargeted read
      rw [output, FileSystem.deliver_unwritten unwritten] at delivered
      refine ⟨_, _, delivered, rfl, rfl, rfl, fun h => absurd h untargeted, ?_⟩
      intro other _ unread
      exact nomatch read.symm.trans unread

/-- Without a target it does not count that the manifest is missing. Where a directory is, no file is written,
though the conversion is done. -/
theorem run_stopped_blog :
    (∃ report, (run (Tree.surroundings [] .empty none) { manifest := "absent.yaml", apps := ["blog"] }).run
        Tree.blog = (report, Tree.blog) ∧ report.stderr = ["error: " ++ Abort.noTarget.message]) ∧
      ∃ report, (run (Tree.surroundings [] .empty none) { Arguments.blog with output := some "." }).run
        Tree.blog = (report, Tree.blog) ∧ report.code = 1 ∧ report.stdout = "" := by
  rw [Tree.surroundings_eq]
  have untargeted : (Tree.fileSystem [] (decode .empty) none).targets Tree.blog
      { manifest := "absent.yaml", apps := ["blog"] } = [] := by decide
  obtain ⟨first, abort, stopped, -, -, told, noTarget, -⟩ := run_stopped _ Tree.blog _ (.inl untargeted)
  obtain ⟨second, -, unwritten, code, stdout, -⟩ :=
    run_stopped (Tree.fileSystem [] (decode .empty) none) Tree.blog
      { Arguments.blog with output := some "." }
      (.inr (.inr ⟨_, ".", .isDirectory, manifest_blog, rfl, rfl⟩))
  exact ⟨⟨first, stopped, noTarget untargeted ▸ told⟩, second, unwritten, code, stdout⟩

/-! ### Runs that deliver -/

theorem code_delivered (events : List Event) (c : Conversion) (output : Option String) :
    (Report.delivered events c output).code = if c.failures = [] then 0 else 1 := by
  unfold Report.delivered Conversion.isClean
  cases c.failures <;> rfl

/-- A conversion goes to the standard output, and then no file changes, or to a file that is written. -/
theorem run_of_writable {σ : Type} {fs : FileSystem σ} {state : σ} {a : Arguments} {manifest : Manifest}
    (targeted : fs.targets state a ≠ []) (read : fs.manifest state a.manifest = .ok manifest)
    (writable : ∀ path ∈ a.output,
      ∃ after, fs.write state path (fs.conversion state a manifest).text = .ok after) :
    ∃ after,
      (run fs.surroundings a).run state =
        (.delivered (fs.told state a) (fs.conversion state a manifest) a.output, after) ∧
      (a.output = none → after = state) ∧
      ∀ path ∈ a.output, fs.write state path (fs.conversion state a manifest).text = .ok after := by
  have delivered := FileSystem.run_of_read targeted read
  cases output : a.output with
  | none =>
    rw [output] at delivered
    exact ⟨state, delivered, fun _ => rfl, nofun⟩
  | some path =>
    obtain ⟨after, written⟩ := writable path output
    rw [output, FileSystem.deliver_written written] at delivered
    refine ⟨after, delivered, nofun, ?_⟩
    intro other same
    cases same
    exact written

/-- **A run delivers the text of its conversion.** With a target, a manifest and, if there is one to write, a
file that can be written, a run delivers the text in Go and behind it the text in Kotlin, each if it is a
target; neither the order nor the repetition of languages counts. The text is all of the standard output or
all of the one file that changes. The standard error names the file and then each failure, and the code tells
whether there are any. -/
theorem run_delivers (tree : Tree) (here : Place) (input : Except FileFault String)
    (userSettings : Option String) (a : Arguments) (manifest : Manifest) :
    let fs := Tree.fileSystem here input userSettings
    let c := fs.conversion tree a manifest
    fs.targets tree a ≠ [] → fs.manifest tree a.manifest = .ok manifest →
    (∀ path ∈ a.output, ∃ after, tree.write here path c.text = .ok after) →
    ∃ report after, (run fs.surroundings a).run tree = (report, after) ∧
      c.text = (c.output? .go).getD "" ++ (c.output? .kotlin).getD "" ∧
      (∀ d, c.output? d =
        if d ∈ fs.targets tree a then
          some (Text.concat ((Conversion.selected manifest.apps a.apps).filterMap fun (app, model) =>
            Conversion.textOf? (a.options (fs.settings tree).2) app model d))
        else none) ∧
      (∀ languages, (∀ d, d ∈ languages ↔ d ∈ a.languages) →
        (fs.conversion tree { a with languages } manifest).text = c.text) ∧
      (a.output = none → report.stdout = c.text ∧ after = tree) ∧
      (∀ path ∈ a.output, report.stdout = "" ∧ tree.Replaced here path c.text after) ∧
      report.stderr = (a.output.map ("Generated " ++ ·)).toList ++
        c.failures.map (fun failure => "error: " ++ failure.message) ∧
      report.code = if c.failures = [] then 0 else 1 := by
  intro fs c targeted read writable
  obtain ⟨after, delivered, unchanged, written⟩ := run_of_writable targeted read writable
  refine ⟨_, after, delivered, c.text_eq, fun d => Conversion.output?_run .., ?_, ?_, ?_, rfl,
    code_delivered ..⟩
  · intro languages same
    apply Conversion.text_run_targets
    exact fs.mem_targets_congr tree a same
  · intro output
    rw [output]
    exact ⟨rfl, unchanged output⟩
  · intro path output
    have file : a.output = some path := output
    rw [file]
    exact ⟨rfl, Tree.replaced_of_write (written path output)⟩

/-- Posts are delivered in Kotlin, and the run tells by its code that something could not be written. -/
theorem run_delivers_blog :
    ∃ report after,
      (run (Tree.surroundings [] .empty none) Arguments.blog).run Tree.blog = (report, after) ∧
      report.stdout = "" ∧ report.code = 1 ∧
      after.read [] "post.kt" = .ok blogInKotlin := by
  obtain ⟨report, after, ran, -, -, -, -, delivered, -, code⟩ :=
    run_delivers Tree.blog [] (decode .empty) none Arguments.blog Manifest.blog (by decide) manifest_blog
      (fun path output => by cases output; exact ⟨_, rfl⟩)
  obtain ⟨stdout, replaced⟩ := delivered "post.kt" rfl
  have text : ((Tree.fileSystem [] (decode .empty) none).conversion Tree.blog Arguments.blog
      Manifest.blog).text = blogInKotlin := by decide +kernel
  have failed : ((Tree.fileSystem [] (decode .empty) none).conversion Tree.blog Arguments.blog
      Manifest.blog).failures ≠ [] := by decide +kernel
  rw [Tree.surroundings_eq]
  exact ⟨report, after, ran, stdout, code.trans (if_neg failed), text ▸ replaced.holds⟩

end Command

end EntityGen
