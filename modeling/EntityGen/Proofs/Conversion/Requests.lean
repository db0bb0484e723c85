import EntityGen.Proofs.Conversion.Accounting
import Mathlib.Data.List.Perm.Basic

/-!
What is asked of a conversion, as sets. Scopes choose models and targets choose dialects; neither the order in
which they are listed nor how often each is named makes a text or a failure more or less. `requests_are_sets`
says what two lists of the same scopes and of the same targets have in common: all of the outputs, and of the
failures everything but the order in which the dialects of one model are reported. -/
namespace EntityGen

/-- Lists with the same elements have the same first occurrences, in some order. -/
theorem firstOccurrences_perm {α : Type} [BEq α] [LawfulBEq α] {l₁ l₂ : List α}
    (h : ∀ a, a ∈ l₁ ↔ a ∈ l₂) : (firstOccurrences l₁).Perm (firstOccurrences l₂) := by
  rw [List.perm_ext_iff_of_nodup (nodup_firstOccurrences l₁) (nodup_firstOccurrences l₂)]
  intro a
  rw [mem_firstOccurrences, mem_firstOccurrences, h]

namespace Conversion

/-- Scopes only say which labels are in scope. -/
theorem selected_congr (apps : List App) {scopes₁ scopes₂ : List String} (h : ∀ s, s ∈ scopes₁ ↔ s ∈ scopes₂) :
    selected apps scopes₁ = selected apps scopes₂ := by
  have inScope : ∀ app : App, scopes₁.contains app.label = scopes₂.contains app.label := by
    intro app
    rw [Bool.eq_iff_iff, List.contains_iff_mem, List.contains_iff_mem, h]
  simp only [selected, inScope]

variable (options : Options) (app : String) (model : Model)

/-- In another order of dialects the failures of a model come in another order. -/
theorem failuresOf_perm {dialects₁ dialects₂ : List Dialect} (h : dialects₁.Perm dialects₂) :
    (failuresOf options app model dialects₁).Perm (failuresOf options app model dialects₂) := by
  unfold failuresOf
  cases (model.normalize app).outcome with
  | error error => exact .refl _
  | ok e => exact h.filterMap _

/-- That a model is no entity is found before any dialect is looked at. -/
theorem unnormalized_failuresOf (dialects : List Dialect) :
    (failuresOf options app model dialects).filter (·.dialect.isNone) =
      match (model.normalize app).outcome with
      | .error error => [⟨app, model.name, none, error⟩]
      | .ok _ => [] := by
  unfold failuresOf
  cases (model.normalize app).outcome with
  | error error => rfl
  | ok e =>
    rw [List.filter_eq_nil_iff]
    intro failure reported
    obtain ⟨d, -, unwritten⟩ := List.mem_filterMap.mp reported
    revert unwritten
    unfold unwritten?
    cases (d.render options e).outcome with
    | error error =>
      intro same
      cases same
      exact nofun
    | ok text => exact nofun

/-- **Scopes and targets are sets.** Let two conversions of a manifest have the same scopes and the same
targets, in any order and named any number of times. Their outputs are the same. Their failures are the same
but for their order, and if the targets first occur in the same order, in the same order. Model by model, both
report that it is not an entity, with the same error, or the same dialects in which it cannot be written. -/
theorem requests_are_sets (manifest : Manifest) (options : Options) {scopes₁ scopes₂ : List String}
    {targets₁ targets₂ : List Dialect} (sameScopes : ∀ s, s ∈ scopes₁ ↔ s ∈ scopes₂)
    (sameTargets : ∀ d, d ∈ targets₁ ↔ d ∈ targets₂) :
    let c₁ := run manifest scopes₁ targets₁ options
    let c₂ := run manifest scopes₂ targets₂ options
    (∀ d, c₁.output? d = c₂.output? d) ∧ c₁.outputs = c₂.outputs ∧ c₁.failures.Perm c₂.failures ∧
    (firstOccurrences targets₁ = firstOccurrences targets₂ → c₁.failures = c₂.failures) ∧
    c₁.failures = (selected manifest.apps scopes₁).flatMap
      (fun (app, model) => failuresOf options app model (firstOccurrences targets₁)) ∧
    c₂.failures = (selected manifest.apps scopes₁).flatMap
      (fun (app, model) => failuresOf options app model (firstOccurrences targets₂)) ∧
    ∀ app model, (app, model) ∈ selected manifest.apps scopes₁ →
      let reported₁ := failuresOf options app model (firstOccurrences targets₁)
      let reported₂ := failuresOf options app model (firstOccurrences targets₂)
      reported₁.filter (·.dialect.isNone) = reported₂.filter (·.dialect.isNone) ∧
      ∀ d error, ⟨app, model.name, some d, error⟩ ∈ reported₁ ↔ ⟨app, model.name, some d, error⟩ ∈ reported₂ := by
  intro c₁ c₂
  have models := selected_congr manifest.apps sameScopes
  have dialects := firstOccurrences_perm sameTargets
  have outputs : ∀ d, c₁.output? d = c₂.output? d := by
    intro d
    rw [output?_run, output?_run, models]
    simp only [sameTargets]
  have failures₁ : c₁.failures = _ := failures_run options manifest scopes₁ targets₁
  have failures₂ : c₂.failures = _ := failures_run options manifest scopes₂ targets₂
  rw [← models] at failures₂
  refine ⟨outputs, ?_, ?_, ?_, failures₁, failures₂, fun app model _ => ⟨?_, fun d error => ?_⟩⟩
  · simp only [Conversion.outputs, outputs]
  · rw [failures₁, failures₂]
    exact List.Perm.flatMap_left _ fun p _ => failuresOf_perm options p.1 p.2 dialects
  · intro sameOrder
    rw [failures₁, failures₂, sameOrder]
  · rw [unnormalized_failuresOf, unnormalized_failuresOf]
  · exact (failuresOf_perm options app model dialects).mem_iff

/-- A shelf whose books can be written in neither dialect: a title would have to have a length, and the copies
of a book a model. -/
def shelf : Manifest :=
  ⟨[⟨"shelf", [⟨"Book", "shelf_book",
    [{ name := "title", kind := "CharField" },
     { name := "copies", isRelation := true, oneToMany := true, isReverse := true }]⟩]⟩]⟩

/-- The order of the targets shows in the failures, and nowhere else. -/
theorem requests_are_sets_shelf :
    (run shelf ["shelf"] [.go, .kotlin] {}).failures ≠
      (run shelf ["shelf", "shelf"] [.kotlin, .go, .kotlin] {}).failures ∧
    (run shelf ["shelf"] [.go, .kotlin] {}).failures.Perm
      (run shelf ["shelf", "shelf"] [.kotlin, .go, .kotlin] {}).failures := by
  have scopes : ∀ s, s ∈ ["shelf"] ↔ s ∈ ["shelf", "shelf"] := by simp
  have targets : ∀ d, d ∈ [Dialect.go, .kotlin] ↔ d ∈ [Dialect.kotlin, .go, .kotlin] := by
    intro d
    cases d <;> decide
  obtain ⟨-, -, failures, -⟩ := requests_are_sets shelf {} scopes targets
  exact ⟨by decide +kernel, failures⟩

end Conversion

end EntityGen
