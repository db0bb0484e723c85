import EntityGen.Proofs.Entity.Items
import EntityGen.Proofs.Sequence
import EntityGen.SchemaError
import EntityGen.Template

/-!
How an entity fails to be written. In each dialect a relation `Lacks` says which slot of which template an item has no
value for. If every item fails for what it lacks and for nothing else (`FailsFor`), an entity fails for what is lacked
by the first of its items that lacks anything (`FailsFor.run_eq_error_iff`). -/
namespace EntityGen

/-- The first item of the entity that lacks anything, and what it lacks. -/
def Entity.LacksFirst (Lacks : Item → Slot → String → Prop) (e : Entity) (item : Item) (slot : Slot)
    (template : String) : Prop :=
  ∃ before after, e.items = before ++ item :: after ∧
    (∀ earlier ∈ before, ∀ slot template, ¬Lacks earlier slot template) ∧ Lacks item slot template

section
variable {α β : Type} {Lacks : Item → Slot → String → Prop} {f : Item → Except SchemaError α}

/-- Every item fails for the value that it lacks, and for nothing else. -/
def FailsFor (Lacks : Item → Slot → String → Prop) (f : Item → Except SchemaError α) : Prop :=
  ∀ item error, f item = .error error ↔
    ∃ slot template, Lacks item slot template ∧ error = .unresolvedSlot item.name slot.name template

/-- It is enough that an item that lacks a value fails for it, and that one that lacks none passes. -/
theorem failsFor_of_complete
    (unresolved : ∀ {item slot template}, Lacks item slot template →
      f item = .error (.unresolvedSlot item.name slot.name template))
    (complete : ∀ item, (∃ a, f item = .ok a) ∨ ∃ slot template, Lacks item slot template) : FailsFor Lacks f := by
  intro item error
  constructor
  · intro failed
    rcases complete item with ⟨a, passed⟩ | ⟨slot, template, lacks⟩
    · exact nomatch passed.symm.trans failed
    · exact ⟨slot, template, lacks, Except.error.inj (failed.symm.trans (unresolved lacks))⟩
  · intro h
    obtain ⟨slot, template, lacks, rfl⟩ := h
    exact unresolved lacks

namespace FailsFor
variable (h : FailsFor Lacks f)
include h

theorem passes_iff {item : Item} : (∃ a, f item = .ok a) ↔ ∀ slot template, ¬Lacks item slot template := by
  have failed := h item
  cases hf : f item with
  | error error =>
    obtain ⟨slot, template, lacks, -⟩ := (failed error).mp hf
    exact iff_of_false nofun fun none => none slot template lacks
  | ok a =>
    refine iff_of_true ⟨a, rfl⟩ fun slot template lacks => ?_
    exact nomatch hf.symm.trans ((failed _).mpr ⟨slot, template, lacks, rfl⟩)

theorem exists_lacks_iff {item : Item} : (∃ slot template, Lacks item slot template) ↔ ¬∃ a, f item = .ok a := by
  simp only [h.passes_iff, not_forall, not_not]

/-- A run over the items of an entity fails if one of them lacks a value, whatever is made of the results. -/
theorem exists_run_eq_error_iff {g : List α → β} {e : Entity} :
    (∃ error, (e.items.mapM f).map g = .error error) ↔ ∃ item ∈ e.items, ∃ slot template, Lacks item slot template := by
  simp only [map_eq_error_iff, mapM_eq_error_iff, exists_failsFirst_iff, h _ _]
  refine exists_congr fun item => and_congr_right fun _ => ?_
  constructor
  · intro failed
    obtain ⟨_, slot, template, lacks, -⟩ := failed
    exact ⟨slot, template, lacks⟩
  · intro lacking
    obtain ⟨slot, template, lacks⟩ := lacking
    exact ⟨_, slot, template, lacks, rfl⟩

/-- It fails for the value that is lacked first. -/
theorem run_eq_error_iff {g : List α → β} {e : Entity} {error : SchemaError} :
    (e.items.mapM f).map g = .error error ↔
      ∃ item slot template, e.LacksFirst Lacks item slot template ∧
        error = .unresolvedSlot item.name slot.name template := by
  rw [map_eq_error_iff, mapM_eq_error_iff]
  constructor
  · intro failed
    obtain ⟨before, item, after, split, passed, failed⟩ := failed
    obtain ⟨slot, template, lacks, rfl⟩ := (h item error).mp failed
    exact ⟨item, slot, template, ⟨before, after, split, fun b hb => h.passes_iff.mp (passed b hb), lacks⟩, rfl⟩
  · intro lacking
    obtain ⟨item, slot, template, ⟨before, after, split, none, lacks⟩, rfl⟩ := lacking
    have failed := (h item _).mpr ⟨slot, template, lacks, rfl⟩
    exact ⟨before, item, after, split, fun b hb => h.passes_iff.mpr (none b hb), failed⟩

end FailsFor

end

/-- An entity whose relations lack one thing or another. -/
def Entity.draft : Entity where
  app := "blog"
  className := "Draft"
  table := "blog_draft"
  columns := [⟨"title", "title", false, .char, .string, .none, [], some 80, false, false, false, true⟩]
  oneToOne := [⟨"origin", none, true, true, none, none, none⟩, ⟨"cover", some "Image", false, false, none, none, none⟩]
  manyToOne := [⟨"author", none, "author_id", false, none⟩]
  oneToMany := [⟨"notes", none, none⟩]

end EntityGen
