import EntityGen.Proofs.Conversion.Outcome
import EntityGen.Proofs.Render.Go.Tags

/-!
What the options of a conversion decide: the tags of Go structs and nothing else. Two conversions under
different options are compared step by step (`Alike`), from one entity in one dialect to all models in scope;
`options_decide_tags` puts that together with what the options do to the lines of a struct. -/
namespace EntityGen
variable (options₁ options₂ : Options)

/-! ### One entity -/

namespace Dialect
variable (dialect : Dialect) (e : Entity)

theorem events_render_options :
    (dialect.render options₁ e).events = (dialect.render options₂ e).events := by
  cases dialect with
  | go =>
    show (Go.render options₁.go e).events = (Go.render options₂.go e).events
    rw [Go.events_render_eq, Go.events_render_eq]
  | kotlin => rfl

theorem render_eq_error_options {error : SchemaError} :
    (dialect.render options₁ e).outcome = .error error ↔
      (dialect.render options₂ e).outcome = .error error := by
  cases dialect with
  | go =>
    show (Go.render options₁.go e).outcome = .error error ↔ (Go.render options₂.go e).outcome = .error error
    rw [Go.render_eq_error_iff, Go.render_eq_error_iff]
  | kotlin => exact Iff.rfl

end Dialect

/-! ### Two outcomes -/

namespace Outcome

/-- The outcomes differ in nothing but texts in Go. -/
structure Alike (first second : Outcome) : Prop where
  failures : first.failures = second.failures
  events : first.events = second.events
  kotlin : first.textsIn .kotlin = second.textsIn .kotlin

theorem Alike.rfl {outcome : Outcome} : Alike outcome outcome := ⟨Eq.refl _, Eq.refl _, Eq.refl _⟩

theorem Alike.append {a b c d : Outcome} (first : Alike a b) (second : Alike c d) :
    Alike (a.append c) (b.append d) where
  failures := by rw [failures_append, failures_append, first.failures, second.failures]
  events := by rw [events_append, events_append, first.events, second.events]
  kotlin := by rw [textsIn_append, textsIn_append, first.kotlin, second.kotlin]

theorem alike_concat {α : Type} {f g : α → Outcome} (h : ∀ a, Alike (f a) (g a)) (l : List α) :
    Alike (concat (l.map f)) (concat (l.map g)) := by
  induction l with
  | nil => exact .rfl
  | cons a rest ih => exact (h a).append ih

end Outcome

/-! ### Conversions -/

namespace Conversion
open Outcome
variable (app : String) (model : Model)

theorem alike_written (e : Entity) (dialect : Dialect) :
    Alike (written options₁ app model e dialect) (written options₂ app model e dialect) := by
  have told := dialect.events_render_options options₁ options₂ e
  cases h₁ : (dialect.render options₁ e).outcome with
  | error error =>
    have h₂ := (dialect.render_eq_error_options options₁ options₂ e).mp h₁
    simp only [written, h₁, h₂, told]
    exact .rfl
  | ok text₁ =>
    cases h₂ : (dialect.render options₂ e).outcome with
    | error error =>
      rw [(dialect.render_eq_error_options options₂ options₁ e).mp h₂] at h₁
      cases h₁
    | ok text₂ =>
      simp only [written, h₁, h₂, told]
      refine ⟨rfl, rfl, ?_⟩
      cases dialect with
      | go => rfl
      | kotlin =>
        have same : text₁ = text₂ := Except.ok.inj (h₁.symm.trans h₂)
        rw [same]

theorem alike_ofModel (dialects : List Dialect) :
    Alike (ofModel options₁ app model dialects) (ofModel options₂ app model dialects) := by
  cases h : (model.normalize app).outcome with
  | error error =>
    rw [ofModel_of_error options₁ app model h, ofModel_of_error options₂ app model h]
    exact .rfl
  | ok e =>
    rw [ofModel_of_ok options₁ app model h, ofModel_of_ok options₂ app model h]
    exact Alike.rfl.append (alike_concat (alike_written options₁ options₂ app model e) dialects)

variable (manifest : Manifest) (scopes : List String) (targets : List Dialect)

theorem alike_outcome :
    Alike (outcome manifest scopes targets options₁) (outcome manifest scopes targets options₂) := by
  have models := alike_concat (fun p : String × Model =>
    alike_ofModel options₁ options₂ p.1 p.2 (firstOccurrences targets)) (selected manifest.apps scopes)
  exact Alike.rfl.append models

theorem output?_kotlin_options :
    (run manifest scopes targets options₁).output? .kotlin =
      (run manifest scopes targets options₂).output? .kotlin := by
  rw [run_eq_extend, run_eq_extend, output?_extend, output?_extend,
    (alike_outcome options₁ options₂ manifest scopes targets).kotlin]

end Conversion

/-- **Options decide tags and nothing else.** Of an entity, whatever the options, the same is told, and there
is the same error or else a struct. Its lines are the same members laid out under either options: the same
columns, and of either kind of tags what is asked for. Without tags no backtick is added. A conversion has the
same failures, tells the same, and writes the same Kotlin. -/
theorem options_decide_tags :
    (∀ (e : Entity) (options₁ options₂ : Go.Options),
      (Go.render options₁ e).events = (Go.render options₂ e).events ∧
      (∀ error, (Go.render options₁ e).outcome = .error error ↔
        (Go.render options₂ e).outcome = .error error) ∧
      ∀ text₁, (Go.render options₁ e).outcome = .ok text₁ →
        ∃ text₂ own lines₁ lines₂, (Go.render options₂ e).outcome = .ok text₂ ∧
          List.Forall₂ (fun item ms => (Go.members e.className item).outcome = .ok ms) e.items own ∧
          text₁ = Text.unlines (Go.structLines e.className e.table (lines₁.map ("    " ++ ·))) ∧
          text₂ = Text.unlines (Go.structLines e.className e.table (lines₂.map ("    " ++ ·))) ∧
          List.Forall₂ (Go.Written options₁) own.flatten lines₁ ∧
          List.Forall₂ (Go.Written options₂) own.flatten lines₂) ∧
    (∀ (e : Entity) (text : String), (Go.render .untagged e).outcome = .ok text → '`' ∈ text.toList →
      '`' ∈ e.className.toList ∨ '`' ∈ e.table.toList ∨
        ∃ item ∈ e.items, ∃ model, item.relatedModel = some model ∧ '`' ∈ model.toList) ∧
    ∀ (manifest : Manifest) (scopes : List String) (targets : List Dialect) (options₁ options₂ : Options),
      (Conversion.run manifest scopes targets options₁).failures =
        (Conversion.run manifest scopes targets options₂).failures ∧
      (Conversion.run manifest scopes targets options₁).events =
        (Conversion.run manifest scopes targets options₂).events ∧
      (Conversion.run manifest scopes targets options₁).output? .kotlin =
        (Conversion.run manifest scopes targets options₂).output? .kotlin := by
  refine ⟨fun e options₁ options₂ => ⟨?_, fun error => ?_, fun text₁ written => ?_⟩,
    fun e text written => Go.backtick_of_untagged written, fun manifest scopes targets options₁ options₂ => ?_⟩
  · rw [Go.events_render_eq, Go.events_render_eq]
  · rw [Go.render_eq_error_iff, Go.render_eq_error_iff]
  · obtain ⟨own, run, -⟩ := map_eq_ok_iff.mp (Go.outcome_render options₁ e ▸ written)
    have declared := mapM_eq_ok_iff.mp run
    obtain ⟨lines₁, outcome₁, laid₁⟩ := @Go.lines_of_render options₁ e own declared
    obtain ⟨lines₂, outcome₂, laid₂⟩ := @Go.lines_of_render options₂ e own declared
    have same : text₁ = _ := Except.ok.inj (written.symm.trans outcome₁)
    exact ⟨_, own, lines₁, lines₂, outcome₂, declared, same, rfl, laid₁, laid₂⟩
  · have alike := Conversion.alike_outcome options₁ options₂ manifest scopes targets
    refine ⟨?_, ?_, Conversion.output?_kotlin_options options₁ options₂ manifest scopes targets⟩
    · rw [Conversion.run_eq_extend, Conversion.run_eq_extend]
      exact alike.failures
    · rw [Conversion.run_eq_extend, Conversion.run_eq_extend]
      exact alike.events

/-- An article without tags is an article under other options, and has no backtick. -/
theorem options_decide_tags_article :
    ∃ text bare own lines, (Go.render {} Entity.article).outcome = .ok text ∧
      (Go.render .untagged Entity.article).outcome = .ok bare ∧ '`' ∉ bare.toList ∧
      List.Forall₂ (Go.Written .untagged) own lines := by
  obtain ⟨entities, untagged, -⟩ := options_decide_tags
  have written : ∃ text, (Go.render {} Entity.article).outcome = .ok text := ⟨_, rfl⟩
  obtain ⟨text, written⟩ := written
  obtain ⟨-, -, alike⟩ := entities Entity.article {} .untagged
  obtain ⟨bare, own, -, lines, outcome, -, -, -, -, laid⟩ := alike text written
  refine ⟨text, bare, own.flatten, lines, written, outcome, ?_, laid⟩
  intro backtick
  exact absurd (untagged Entity.article bare outcome backtick) (by decide)

end EntityGen
