import EntityGen.Proofs.Conversion.Outcome

/-!
What a conversion accounts for. A model in scope and a target are either a text or a failure
(`textOf?`, `failuresOf`), each told of the model alone. `run_accounts` says that a conversion is all of
these in the order of the manifest: nothing is lost, doubled or moved, however often labels, scopes and
targets are repeated. -/
namespace EntityGen

/-- A failure stands in for the text in a dialect: it is about that dialect, or about all of them. -/
def Failure.covers (f : Failure) (dialect : Dialect) : Bool := f.dialect.all (· == dialect)

namespace Conversion
variable (options : Options) (app : String) (model : Model)

/-- The text of a model in a dialect, if it is an entity that can be written in it. -/
def textOf? (dialect : Dialect) : Option String :=
  match (model.normalize app).outcome with
  | .error _ => none
  | .ok e => (dialect.render options e).outcome.toOption

/-- That an entity cannot be written in a dialect. -/
def unwritten? (e : Entity) (dialect : Dialect) : Option Failure :=
  match (dialect.render options e).outcome with
  | .error error => some ⟨app, model.name, some dialect, error⟩
  | .ok _ => none

/-- What is wrong with a model: that it is not an entity, or else every dialect that it cannot be
written in. -/
def failuresOf (dialects : List Dialect) : List Failure :=
  match (model.normalize app).outcome with
  | .error error => [⟨app, model.name, none, error⟩]
  | .ok e => dialects.filterMap (unwritten? options app model e)

/-! ### One model -/

theorem textsIn_written (e : Entity) (dialect wanted : Dialect) :
    (written options app model e dialect).textsIn wanted =
      if dialect = wanted then (wanted.render options e).outcome.toOption.toList else [] := by
  by_cases h : dialect = wanted
  · subst h
    cases hr : (dialect.render options e).outcome <;>
      simp [written, Outcome.textsIn, hr, Except.toOption]
  · cases hr : (dialect.render options e).outcome <;> simp [written, Outcome.textsIn, hr, h]

theorem failures_written (e : Entity) (dialect : Dialect) :
    (written options app model e dialect).failures =
      (unwritten? options app model e dialect).toList := by
  cases hr : (dialect.render options e).outcome <;> simp [written, unwritten?, hr]

/-- A dialect that is listed once is written once, and any other not at all. -/
theorem textsIn_dialects (e : Entity) {dialects : List Dialect} (once : dialects.Nodup)
    (wanted : Dialect) :
    dialects.flatMap (fun d => (written options app model e d).textsIn wanted) =
      if wanted ∈ dialects then (wanted.render options e).outcome.toOption.toList else [] := by
  induction dialects with
  | nil => rfl
  | cons d rest ih =>
    obtain ⟨hd, hrest⟩ := List.nodup_cons.mp once
    rw [List.flatMap_cons, ih hrest, textsIn_written]
    by_cases h : d = wanted
    · subst h
      simp [hd]
    · simp [h, Ne.symm h]

theorem textsIn_ofModel {dialects : List Dialect} (once : dialects.Nodup) (wanted : Dialect) :
    (ofModel options app model dialects).textsIn wanted =
      if wanted ∈ dialects then (textOf? options app model wanted).toList else [] := by
  cases h : (model.normalize app).outcome with
  | error error =>
    rw [ofModel_of_error options app model h]
    simp [Outcome.textsIn, textOf?, h]
  | ok e =>
    rw [ofModel_of_ok options app model h, Outcome.textsIn_append, Outcome.textsIn_concat,
      List.flatMap_map, textsIn_dialects options app model e once]
    simp [Outcome.textsIn, textOf?, h]

theorem failures_ofModel (dialects : List Dialect) :
    (ofModel options app model dialects).failures = failuresOf options app model dialects := by
  cases h : (model.normalize app).outcome with
  | error error =>
    rw [ofModel_of_error options app model h]
    simp only [failuresOf, h]
  | ok e =>
    rw [ofModel_of_ok options app model h, Outcome.failures_append, Outcome.failures_concat,
      List.flatMap_map]
    simp only [failures_written, failuresOf, h, List.nil_append]
    exact (List.filterMap_eq_flatMap_toList _ _).symm

/-! ### A text or a failure -/

/-- Where only one element of a list can count and it occurs once, it alone is counted. -/
theorem countP_eq_toNat {α : Type} {p : α → Bool} {a : α} {l : List α} (once : l.Nodup) (ha : a ∈ l)
    (others : ∀ b, b ≠ a → p b = false) : l.countP p = (p a).toNat := by
  induction l with
  | nil => exact absurd ha (List.not_mem_nil)
  | cons b rest ih =>
    obtain ⟨hb, hrest⟩ := List.nodup_cons.mp once
    rcases List.mem_cons.mp ha with rfl | ha
    · have none_left : rest.countP p = 0 := by
        rw [List.countP_eq_zero]
        intro c hc
        have hne : c ≠ a := fun h => hb (h ▸ hc)
        rw [others c hne]
        decide
      rw [List.countP_cons, none_left]
      cases p a <;> rfl
    · have hne : b ≠ a := fun h => hb (h ▸ ha)
      rw [List.countP_cons, ih hrest ha, others b hne]
      rfl

/-- Of an entity and a dialect there is a failure exactly where there is no text. -/
theorem covers_unwritten? (e : Entity) (dialect wanted : Dialect) :
    ((unwritten? options app model e dialect).map (·.covers wanted)).getD false =
      (dialect == wanted && (dialect.render options e).outcome.toOption.isNone) := by
  cases h : (dialect.render options e).outcome <;>
    simp [unwritten?, h, Failure.covers, Except.toOption]

/-- **A model and a target are one text or one failure.** -/
theorem text_or_failure {dialects : List Dialect} (once : dialects.Nodup) {wanted : Dialect}
    (hw : wanted ∈ dialects) :
    (textOf? options app model wanted).toList.length +
      (failuresOf options app model dialects).countP (·.covers wanted) = 1 := by
  cases h : (model.normalize app).outcome with
  | error error => simp [textOf?, failuresOf, h, Failure.covers]
  | ok e =>
    have count : (failuresOf options app model dialects).countP (·.covers wanted) =
        ((wanted.render options e).outcome.toOption.isNone).toNat := by
      simp only [failuresOf, h]
      simp only [List.countP_filterMap, covers_unwritten?]
      rw [countP_eq_toNat once hw]
      · simp
      · intro d hd
        simp [hd]
    rw [count]
    simp only [textOf?, h]
    cases (wanted.render options e).outcome.toOption <;> rfl

/-! ### All models in scope -/

variable (manifest : Manifest) (scopes : List String) (targets : List Dialect)

theorem textsIn_outcome (dialect : Dialect) (target : dialect ∈ targets) :
    (outcome manifest scopes targets options).textsIn dialect =
      (selected manifest.apps scopes).filterMap fun p => textOf? options p.1 p.2 dialect := by
  have once := nodup_firstOccurrences targets
  rw [outcome, Outcome.textsIn_append, Outcome.textsIn_concat, List.flatMap_map,
    List.filterMap_eq_flatMap_toList]
  simp only [textsIn_ofModel _ _ _ once, mem_firstOccurrences, target, if_true]
  rfl

theorem output?_run (dialect : Dialect) :
    (run manifest scopes targets options).output? dialect =
      if dialect ∈ targets then
        some (Text.concat
          ((selected manifest.apps scopes).filterMap fun p => textOf? options p.1 p.2 dialect))
      else none := by
  rw [run_eq_extend, output?_extend, output?_requested]
  simp only [mem_firstOccurrences]
  split_ifs with target
  · rw [Option.map_some, textsIn_outcome options manifest scopes targets dialect target, String.empty_append]
  · rfl

theorem failures_run :
    (run manifest scopes targets options).failures =
      (selected manifest.apps scopes).flatMap fun p =>
        failuresOf options p.1 p.2 (firstOccurrences targets) := by
  rw [run_eq_extend, failures_extend_requested, outcome, Outcome.failures_append, Outcome.failures_concat,
    List.flatMap_map]
  simp only [failures_ofModel]
  rfl

/-- **The accounts of a conversion.** A dialect has an output exactly if it is a target, and the output
is the texts of the models in scope, in the order of the manifest. The failures are theirs in the same
order. Every model in scope and every target are one text or one failure. In scope are the models of the entries whose
label is asked for, entry after entry, however often a label is in the manifest or asked for. -/
theorem run_accounts :
    (∀ d, (run manifest scopes targets options).output? d =
      if d ∈ targets then
        some (Text.concat
          ((selected manifest.apps scopes).filterMap fun (app, model) => textOf? options app model d))
      else none) ∧
    (run manifest scopes targets options).failures =
      (selected manifest.apps scopes).flatMap
        (fun (app, model) => failuresOf options app model (firstOccurrences targets)) ∧
    (∀ app model, (app, model) ∈ selected manifest.apps scopes → ∀ d ∈ targets,
      (textOf? options app model d).toList.length +
        (failuresOf options app model (firstOccurrences targets)).countP (·.covers d) = 1) ∧
    selected [] scopes = [] ∧
    ∀ (label : String) (models : List Model) (rest : List App),
      selected (⟨label, models⟩ :: rest) scopes =
        (if label ∈ scopes then models.map (label, ·) else []) ++ selected rest scopes := by
  refine ⟨output?_run options manifest scopes targets, failures_run options manifest scopes targets, ?_, rfl,
    fun label models rest => selected_cons label models rest scopes⟩
  intro app model _ d hd
  exact text_or_failure options app model (nodup_firstOccurrences targets) (mem_firstOccurrences.mpr hd)

end Conversion

def Model.book : Model := ⟨"Book", "books_book", [{ name := "id", kind := "AutoField", primaryKey := true }]⟩

/-- A text in Go has a length, and this one does not. -/
def Model.title : Model := ⟨"Title", "books_title", [{ name := "text", kind := "CharField" }]⟩

/-- A relation of no shape. -/
def Model.loan : Model := ⟨"Loan", "books_loan", [{ name := "reader", isRelation := true }]⟩

/-- A library with two entries for its books. -/
def Manifest.library : Manifest where
  apps := [⟨"books", [.book]⟩, ⟨"people", [⟨"Reader", "people_reader", []⟩]⟩, ⟨"books", [.title, .loan]⟩]

namespace Conversion

/-- Titles fail in Go alone and loans at once, however often books and targets are asked for. -/
theorem run_accounts_library :
    let scopes := ["books", "music", "books"]
    let c := run .library scopes [.kotlin, .go, .kotlin] {}
    selected Manifest.library.apps scopes = [("books", .book), ("books", .title), ("books", .loan)] ∧
      (∃ book title, textOf? {} "books" .book .kotlin = some book ∧ textOf? {} "books" .title .kotlin = some title ∧
        c.output? .kotlin = some (book ++ title)) ∧
      c.failures =
        [⟨"books", "Title", some .go, .unresolvedSlot "text" "max_length" "type:varchar(\x7bmax_length\x7d)"⟩,
          ⟨"books", "Loan", none, .ambiguousShape "reader" 0⟩] ∧
      (textOf? {} "books" .title .go).toList.length +
        (failuresOf {} "books" .title [.kotlin, .go]).countP (·.covers .go) = 1 := by
  intro scopes c
  obtain ⟨outputs, failures, once, empty, entries⟩ := run_accounts {} .library scopes [.kotlin, .go, .kotlin]
  have inScope : selected Manifest.library.apps scopes =
      [("books", .book), ("books", .title), ("books", .loan)] := by
    show selected [⟨"books", [.book]⟩, ⟨"people", _⟩, ⟨"books", [.title, .loan]⟩] scopes = _
    rw [entries, entries, entries, empty]
    rfl
  obtain ⟨book, inKotlin⟩ : ∃ book, textOf? {} "books" .book .kotlin = some book := ⟨_, rfl⟩
  obtain ⟨title, titleInKotlin⟩ : ∃ title, textOf? {} "books" .title .kotlin = some title := ⟨_, rfl⟩
  have loan : textOf? {} "books" .loan .kotlin = none := rfl
  have written := outputs .kotlin
  rw [inScope] at written failures
  refine ⟨inScope, ⟨book, title, inKotlin, titleInKotlin, ?_⟩, failures.trans (by decide +kernel), ?_⟩
  · simpa [inKotlin, titleInKotlin, loan] using written
  · exact once "books" .title (by simp [inScope]) .go (by decide)

end Conversion

end EntityGen
