import EntityGen.Proofs.Conversion.Accounting
import EntityGen.Proofs.Entity.Origins
import EntityGen.Proofs.Render.Go.Unresolved
import EntityGen.Proofs.Render.Kotlin.Unresolved

/-!
What a failure is put down to. A failure names an app in scope and a model of it, and its error is about one field of
that model: the field that keeps it from being an entity, or the field whose item cannot be written in the dialect of
the failure (`failures_attributed`). -/
namespace EntityGen

/-- The failure of the model is because of the field: the field keeps the model from being an entity, or a template of
a dialect has a slot that the field has no value for. -/
inductive Failure.DueTo (app : String) (model : Model) (field : Field) : Failure → Prop where
  | refused {error} : field.Refused error → DueTo app model field ⟨app, model.name, none, error⟩
  | unresolved {d slot template} :
      DueTo app model field ⟨app, model.name, some d, .unresolvedSlot field.itemName slot template⟩

namespace Failure.DueTo
variable {failure : Failure} {app : String} {model : Model} {field : Field}

theorem names (h : failure.DueTo app model field) : failure.app = app ∧ failure.model = model.name := by
  cases h <;> exact ⟨rfl, rfl⟩

/-- The error is at the field, by the name that it has where the error is found. -/
theorem error_field (h : failure.DueTo app model field) :
    failure.error.field = if failure.dialect = none then field.name else field.itemName := by
  cases h with
  | refused refused => exact refused.field_eq
  | unresolved => rfl

/-- An error for all dialects is about what the field says of itself. -/
theorem error_of_none (h : failure.DueTo app model field) (all : failure.dialect = none) :
    (∃ kind, failure.error = .unmappedValueKind field.name kind) ∨
      failure.error = .ambiguousShape field.name field.shapeCount := by
  cases h with
  | refused refused =>
    cases refused with
    | unmapped => exact .inl ⟨_, rfl⟩
    | ambiguous => exact .inr rfl
  | unresolved => exact nomatch all

/-- An error for one dialect is about a template. -/
theorem error_of_some (h : failure.DueTo app model field) {d : Dialect} (one : failure.dialect = some d) :
    ∃ slot template, failure.error = .unresolvedSlot field.itemName slot template := by
  cases h with
  | refused => exact nomatch one
  | unresolved => exact ⟨_, _, rfl⟩

/-- A kind that the catalogue does not have is no reason to fail. -/
theorem error_ne (h : failure.DueTo app model field) (name kind : String) :
    failure.error ≠ .unrecognizedKind name kind := by
  cases h with
  | refused refused => cases refused <;> exact nofun
  | unresolved => exact nofun

end Failure.DueTo

/-- An entity that cannot be written has an item with a slot that has no value. -/
theorem Dialect.unresolved_of_render {options : Options} {e : Entity} {d : Dialect} {error : SchemaError}
    (failed : (d.render options e).outcome = .error error) :
    ∃ item ∈ e.items, ∃ slot template, error = .unresolvedSlot item.name slot template := by
  have lacking : ∃ Lacks item slot template, e.LacksFirst Lacks item slot template ∧
      error = .unresolvedSlot item.name slot.name template := by
    cases d with
    | go =>
      have run : (Go.render options.go e).outcome = .error error := failed
      rw [Go.outcome_render] at run
      exact ⟨_, (Go.failsFor_members e.className).run_eq_error_iff.mp run⟩
    | kotlin =>
      have run : Kotlin.render e = .error error := failed
      rw [Kotlin.render_eq] at run
      exact ⟨_, Kotlin.failsFor_block.run_eq_error_iff.mp run⟩
  obtain ⟨_, item, slot, template, ⟨before, after, split, -⟩, rfl⟩ := lacking
  exact ⟨item, split ▸ List.mem_append_right _ (List.mem_cons_self ..), slot.name, template, rfl⟩

namespace Conversion
variable {options : Options} {app : String} {model : Model} {failure : Failure}

/-! ### One model -/

theorem unwritten?_eq_some_iff {e : Entity} {d : Dialect} :
    unwritten? options app model e d = some failure ↔
      ∃ error, (d.render options e).outcome = .error error ∧ failure = ⟨app, model.name, some d, error⟩ := by
  unfold unwritten?
  cases (d.render options e).outcome <;> simp [eq_comm]

/-- A model fails for all dialects if it is not an entity, and else for those that it cannot be written in. -/
theorem mem_failuresOf {dialects : List Dialect} :
    failure ∈ failuresOf options app model dialects ↔
      (∃ error, (model.normalize app).outcome = .error error ∧ failure = ⟨app, model.name, none, error⟩) ∨
      ∃ e, (model.normalize app).outcome = .ok e ∧ ∃ d ∈ dialects, ∃ error,
        (d.render options e).outcome = .error error ∧ failure = ⟨app, model.name, some d, error⟩ := by
  unfold failuresOf
  cases (model.normalize app).outcome with
  | error error => simp
  | ok e => simp [unwritten?_eq_some_iff]

/-- A failure of a model is because of one of its fields, and for a dialect that is asked for. -/
theorem exists_dueTo_of_mem {dialects : List Dialect} (failed : failure ∈ failuresOf options app model dialects) :
    (∃ field ∈ model.fields, failure.DueTo app model field) ∧ ∀ d ∈ failure.dialect, d ∈ dialects := by
  rcases mem_failuresOf.mp failed with ⟨error, unmade, rfl⟩ | ⟨e, made, d, asked, error, unwritten, rfl⟩
  · obtain ⟨field, mem, refused⟩ := Model.exists_field_of_error unmade
    exact ⟨⟨field, mem, .refused refused⟩, nofun⟩
  · obtain ⟨item, there, slot, template, rfl⟩ := Dialect.unresolved_of_render unwritten
    obtain ⟨field, mem, becomes⟩ := Model.exists_field_of_item made there
    rw [becomes.name_eq]
    refine ⟨⟨field, mem, .unresolved⟩, fun other same => ?_⟩
    rwa [← Option.some.inj same]

/-! ### All models in scope -/

/-- **Every failure is put down to a field.** A failure names an app in scope and a model in an entry of that label,
and is a failure of this model because of one of its fields. If it is for all dialects, its error is at the field's
name, and the field is of a kind without values or does not have one shape. If it is for a dialect, that is a target
and a template of it has a slot without a value, and the error is at the name that the field goes by there. A kind
that the catalogue does not have is never an error. -/
theorem failures_attributed (manifest : Manifest) (scopes : List String) (targets : List Dialect) (options : Options) :
    ∀ failure ∈ (run manifest scopes targets options).failures,
      failure.app ∈ scopes ∧
      ∃ app ∈ manifest.apps, app.label = failure.app ∧
      ∃ model ∈ app.models, model.name = failure.model ∧
        failure ∈ failuresOf options app.label model (firstOccurrences targets) ∧
      ∃ field ∈ model.fields, failure.DueTo app.label model field ∧
        (failure.error.field = if failure.dialect = none then field.name else field.itemName) ∧
        (failure.dialect = none → (∃ kind, failure.error = .unmappedValueKind field.name kind) ∨
          failure.error = .ambiguousShape field.name field.shapeCount) ∧
        (∀ d, failure.dialect = some d →
          d ∈ targets ∧ ∃ slot template, failure.error = .unresolvedSlot field.itemName slot template) ∧
        ∀ name kind, failure.error ≠ .unrecognizedKind name kind := by
  intro failure failed
  rw [failures_run, List.mem_flatMap] at failed
  obtain ⟨⟨label, model⟩, chosen, failed⟩ := failed
  obtain ⟨inScope, app, there, rfl, mem⟩ := mem_selected.mp chosen
  obtain ⟨⟨field, own, due⟩, asked⟩ := exists_dueTo_of_mem failed
  rw [due.names.1, due.names.2]
  refine ⟨inScope, app, there, rfl, model, mem, rfl, failed, field, own, due, due.error_field, due.error_of_none,
    fun d one => ⟨?_, due.error_of_some one⟩, due.error_ne⟩
  exact mem_firstOccurrences.mp (asked d one)

end Conversion

/-- A forum whose threads do not say what their answers refer to them by, and whose replies have an author that is not
declared as a relation. -/
def Manifest.forum : Manifest where
  apps := [⟨"forum", [⟨"Thread", "forum_thread",
      [{ name := "id", kind := "AutoField", primaryKey := true },
        { name := "answer", isRelation := true, oneToMany := true, accessorName := some "answers" }]⟩]⟩,
    ⟨"forum", [⟨"Reply", "forum_reply", [{ name := "author", kind := "ForeignKey" }]⟩]⟩]

namespace Conversion

/-- The answers fail in Kotlin, by the name that threads have for them; a reply fails at once. -/
theorem failures_attributed_forum :
    let failures := (run .forum ["forum"] [.go, .kotlin] {}).failures
    (∃ failure ∈ failures, failure.dialect = some .kotlin ∧ failure.error.field = "answers" ∧
      ∃ app ∈ Manifest.forum.apps, ∃ model ∈ app.models, model.name = "Thread" ∧
        ∃ field ∈ model.fields, field.itemName = "answers") ∧
    ∃ failure ∈ failures, failure.dialect = none ∧ failure.error.field = "author" ∧
      ∃ app ∈ Manifest.forum.apps, ∃ model ∈ app.models, model.name = "Reply" ∧
        ∃ field ∈ model.fields, field.name = "author" := by
  intro failures
  have all := failures_attributed .forum ["forum"] [.go, .kotlin] {}
  have answers : ⟨"forum", "Thread", some .kotlin, .unresolvedSlot "answers" "peer_field"
      "@OneToMany(mappedBy = \"\x7bpeer_field\x7d\")"⟩ ∈ failures := by decide +kernel
  have author : ⟨"forum", "Reply", none, .unmappedValueKind "author" .foreignKey⟩ ∈ failures := by decide +kernel
  obtain ⟨-, app, there, -, model, mem, name, -, field, own, -, at_field, -⟩ := all _ answers
  obtain ⟨-, app', there', -, model', mem', name', -, field', own', -, at_field', -⟩ := all _ author
  exact ⟨⟨_, answers, rfl, rfl, app, there, model, mem, name, field, own, at_field.symm⟩,
    ⟨_, author, rfl, rfl, app', there', model', mem', name', field', own', at_field'.symm⟩⟩

end Conversion

end EntityGen
