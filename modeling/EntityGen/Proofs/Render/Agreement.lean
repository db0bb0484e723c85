import EntityGen.Proofs.Render.Go.Complete
import EntityGen.Proofs.Render.Kotlin.Complete

/-!
Which entities can be written in which dialect. What an item needs for a Kotlin class it needs for a Go
struct as well, but for the length of a text (`Complete.go`); what it needs only for the class is the field
on the other side of a relation that a struct passes over, and the columns of a table that joins two entities
(`Go.Complete.kotlin_iff`). `written_alike` says the same of whole entities. -/
namespace EntityGen

/-- A text has a length. -/
def Item.Bounded : Item → Prop
  | .column c => c.kind = .char → c.maxLength.isSome
  | _ => True

/-- The item has the values that a class asks for and a struct does not. -/
def Item.Linked : Item → Prop
  | .oneToOne r => r.isInverse = true → r.peerField.isSome ∧ r.relatedModel.isSome
  | .oneToMany r => r.peerField.isSome ∧ r.relatedModel.isSome
  | .manyToMany r => r.isInverse = false → r.joinColumn.isSome ∧ r.peerJoinColumn.isSome
  | .column _ | .manyToOne _ => True

/-! ### One item -/

theorem Kotlin.Complete.go {item : Item} (h : Kotlin.Complete item) (bounded : item.Bounded) :
    Go.Complete item := by
  cases item with
  | column c => exact ⟨h, bounded⟩
  | oneToOne r =>
    obtain ⟨name, model?, nullable, inverse, join?, action, peer?⟩ := r
    cases inverse with
    | false => exact h
    | true => exact trivial
  | manyToOne r => exact h
  | oneToMany r => exact trivial
  | manyToMany r =>
    obtain ⟨name, model?, inverse, table?, join?, peerJoin?, peer?⟩ := r
    cases inverse with
    | false => exact ⟨h.1, h.2.1⟩
    | true => exact h

theorem Go.Complete.kotlin_iff {item : Item} (h : Go.Complete item) : Kotlin.Complete item ↔ item.Linked := by
  cases item with
  | column c => exact iff_of_true h.1 trivial
  | oneToOne r =>
    obtain ⟨name, model?, nullable, inverse, join?, action, peer?⟩ := r
    cases inverse with
    | false => exact iff_of_true h nofun
    | true => exact ⟨fun complete _ => complete.symm, fun linked => (linked rfl).symm⟩
  | manyToOne r => exact iff_of_true h trivial
  | oneToMany r => exact and_comm
  | manyToMany r =>
    obtain ⟨name, model?, inverse, table?, join?, peerJoin?, peer?⟩ := r
    cases inverse with
    | false => exact ⟨fun complete _ => complete.2.2, fun linked => ⟨h.1, h.2, linked rfl⟩⟩
    | true => exact iff_of_true h nofun

/-! ### Whole entities -/

theorem Entity.bounded_iff {e : Entity} :
    (∀ item ∈ e.items, item.Bounded) ↔ ∀ c ∈ e.columns, c.kind = .char → c.maxLength.isSome := by
  rw [Entity.forall_mem_items]
  exact ⟨fun h => h.1, fun h => ⟨h, fun _ _ => trivial, fun _ _ => trivial, fun _ _ => trivial,
    fun _ _ => trivial⟩⟩

theorem Entity.linked_iff {e : Entity} :
    (∀ item ∈ e.items, item.Linked) ↔
      (∀ r ∈ e.oneToMany, r.peerField.isSome ∧ r.relatedModel.isSome) ∧
      (∀ r ∈ e.oneToOne, r.isInverse = true → r.peerField.isSome ∧ r.relatedModel.isSome) ∧
      ∀ r ∈ e.manyToMany, r.isInverse = false → r.joinColumn.isSome ∧ r.peerJoinColumn.isSome := by
  rw [Entity.forall_mem_items]
  constructor
  · intro h
    obtain ⟨-, oneToOne, -, oneToMany, manyToMany⟩ := h
    exact ⟨oneToMany, oneToOne, manyToMany⟩
  · intro h
    obtain ⟨oneToMany, oneToOne, manyToMany⟩ := h
    exact ⟨fun _ _ => trivial, oneToOne, fun _ _ => trivial, oneToMany, manyToMany⟩

/-- **Which entities both dialects can write.** An entity that can be written in Kotlin can be written in Go
if its texts have a length. One that can be written in Go can be written in Kotlin exactly if every
one-to-many relation and every inverse side of a one-to-one relation names its field and its model, and every
table that joins two entities has both its columns. -/
theorem written_alike (options : Go.Options) (e : Entity) :
    ((∃ text, Kotlin.render e = .ok text) → (∀ c ∈ e.columns, c.kind = .char → c.maxLength.isSome) →
      ∃ text, (Go.render options e).outcome = .ok text) ∧
    ((∃ text, (Go.render options e).outcome = .ok text) →
      ((∃ text, Kotlin.render e = .ok text) ↔
        (∀ r ∈ e.oneToMany, r.peerField.isSome ∧ r.relatedModel.isSome) ∧
        (∀ r ∈ e.oneToOne, r.isInverse = true → r.peerField.isSome ∧ r.relatedModel.isSome) ∧
        ∀ r ∈ e.manyToMany, r.isInverse = false → r.joinColumn.isSome ∧ r.peerJoinColumn.isSome)) := by
  rw [Kotlin.exists_render_iff, Go.exists_render_iff, ← Entity.bounded_iff, ← Entity.linked_iff]
  constructor
  · intro complete bounded item hi
    exact (complete item hi).go (bounded item hi)
  · intro complete
    exact forall₂_congr fun item hi => (complete item hi).kotlin_iff

/-- An article can be written in both, and one whose comments do not name it can be written in Go alone. -/
theorem written_alike_article :
    (∃ text, (Go.render {} Entity.article).outcome = .ok text) ∧
      ¬∃ text, Kotlin.render { Entity.article with oneToMany := [⟨"comments", some "Comment", none⟩] } =
        .ok text := by
  obtain ⟨toGo, -⟩ := written_alike {} Entity.article
  obtain ⟨-, toKotlin⟩ :=
    written_alike {} { Entity.article with oneToMany := [⟨"comments", some "Comment", none⟩] }
  constructor
  · exact toGo ⟨_, rfl⟩ (by decide)
  · intro written
    obtain ⟨named, -⟩ := (toKotlin ⟨_, rfl⟩).mp written
    exact absurd (named _ (List.mem_singleton_self _)).1 (by decide)

end EntityGen
