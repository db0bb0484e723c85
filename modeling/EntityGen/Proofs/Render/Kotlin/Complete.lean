import EntityGen.Proofs.Render.Kotlin.Items

/-!
What an item needs to have a block. `Complete` says for every shape of item which of its values are asked
for, and `exists_render_iff` that a class is written exactly if all items of the entity have theirs. -/
namespace EntityGen.Kotlin

/-- The item has every value that its block asks for. -/
def Complete : Item → Prop
  | .column c => c.kind.isRelation = false
  | .oneToOne r =>
    if r.isInverse then r.relatedModel.isSome ∧ r.peerField.isSome
    else r.relatedModel.isSome ∧ r.joinColumn.isSome
  | .manyToOne r => r.relatedModel.isSome
  | .oneToMany r => r.relatedModel.isSome ∧ r.peerField.isSome
  | .manyToMany r =>
    if r.isInverse then r.relatedModel.isSome ∧ r.peerField.isSome
    else r.relatedModel.isSome ∧ r.joinTable.isSome ∧ r.joinColumn.isSome ∧ r.peerJoinColumn.isSome

/-- Exactly the relations have no value. -/
theorem exists_valueKind_iff {kind : Kind} :
    (∃ value, kind.valueKind? = some value) ↔ kind.isRelation = false := by
  rw [← Option.ne_none_iff_exists', ne_eq, Kind.valueKind?_eq_none_iff, Bool.not_eq_true]

/-- What an item declares is what it has the values for. -/
theorem exists_declares_iff {item : Item} : (∃ marks type, Declares item marks type) ↔ Complete item := by
  constructor
  · intro h
    obtain ⟨marks, type, declares⟩ := h
    cases declares with
    | column hv => exact exists_valueKind_iff.mp ⟨_, hv⟩
    | inverseOneToOne => exact ⟨rfl, rfl⟩
    | owningOneToOne => exact ⟨rfl, rfl⟩
    | manyToOne => exact rfl
    | oneToMany => exact ⟨rfl, rfl⟩
    | inverseManyToMany => exact ⟨rfl, rfl⟩
    | owningManyToMany => exact ⟨rfl, rfl, rfl, rfl⟩
  · intro h
    cases item with
    | column c =>
      obtain ⟨value, hv⟩ := exists_valueKind_iff.mpr h
      exact ⟨_, _, .column hv⟩
    | oneToOne r =>
      obtain ⟨name, model?, nullable, inverse, join?, action, peer?⟩ := r
      cases inverse with
      | false =>
        obtain ⟨model, join⟩ := h
        obtain ⟨model, rfl⟩ := Option.isSome_iff_exists.mp model
        obtain ⟨join, rfl⟩ := Option.isSome_iff_exists.mp join
        exact ⟨_, _, .owningOneToOne⟩
      | true =>
        obtain ⟨model, peer⟩ := h
        obtain ⟨model, rfl⟩ := Option.isSome_iff_exists.mp model
        obtain ⟨peer, rfl⟩ := Option.isSome_iff_exists.mp peer
        exact ⟨_, _, .inverseOneToOne⟩
    | manyToOne r =>
      obtain ⟨name, model?, join, nullable, action⟩ := r
      obtain ⟨model, rfl⟩ := Option.isSome_iff_exists.mp h
      exact ⟨_, _, .manyToOne⟩
    | oneToMany r =>
      obtain ⟨name, model?, peer?⟩ := r
      obtain ⟨model, peer⟩ := h
      obtain ⟨model, rfl⟩ := Option.isSome_iff_exists.mp model
      obtain ⟨peer, rfl⟩ := Option.isSome_iff_exists.mp peer
      exact ⟨_, _, .oneToMany⟩
    | manyToMany r =>
      obtain ⟨name, model?, inverse, table?, join?, peerJoin?, peer?⟩ := r
      cases inverse with
      | false =>
        obtain ⟨model, table, join, peerJoin⟩ := h
        obtain ⟨model, rfl⟩ := Option.isSome_iff_exists.mp model
        obtain ⟨table, rfl⟩ := Option.isSome_iff_exists.mp table
        obtain ⟨join, rfl⟩ := Option.isSome_iff_exists.mp join
        obtain ⟨peerJoin, rfl⟩ := Option.isSome_iff_exists.mp peerJoin
        exact ⟨_, _, .owningManyToMany⟩
      | true =>
        obtain ⟨model, peer⟩ := h
        obtain ⟨model, rfl⟩ := Option.isSome_iff_exists.mp model
        obtain ⟨peer, rfl⟩ := Option.isSome_iff_exists.mp peer
        exact ⟨_, _, .inverseManyToMany⟩

theorem exists_block_iff {item : Item} : (∃ ls, block item = .ok ls) ↔ Complete item := by
  rw [← exists_declares_iff]
  simp only [block_eq_ok_iff]
  constructor
  · intro h
    obtain ⟨_, marks, type, declares, -⟩ := h
    exact ⟨marks, type, declares⟩
  · intro h
    obtain ⟨marks, type, declares⟩ := h
    exact ⟨_, marks, type, declares, rfl⟩

/-- A class is written exactly if every item has what its block asks for. -/
theorem exists_render_iff {e : Entity} :
    (∃ text, render e = .ok text) ↔ ∀ item ∈ e.items, Complete item := by
  rw [render_eq, exists_map_eq_ok_iff, exists_mapM_eq_ok_iff]
  simp only [exists_block_iff]

end EntityGen.Kotlin
