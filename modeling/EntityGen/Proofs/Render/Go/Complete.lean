import EntityGen.Proofs.Render.Go.Items

/-!
What an item needs to have members. `Complete` says for every shape of item which of its values are asked
for, and `exists_render_iff` that a struct is written exactly if all items of the entity have theirs. What a
stored field needs is read off the templates of its kind. -/
namespace EntityGen

/-- Everything the mapping writes. -/
def Mapping.templates (m : Mapping) : List String := m.type :: (m.storage.toList ++ m.validation.toList)

namespace Go

/-- The item has every value that its members ask for. -/
def Complete : Item → Prop
  | .column c => c.kind.isRelation = false ∧ (c.kind = .char → c.maxLength.isSome)
  | .oneToOne r =>
    if r.isInverse then True else r.relatedModel.isSome ∧ r.joinColumn.isSome
  | .manyToOne r => r.relatedModel.isSome
  | .oneToMany _ => True
  | .manyToMany r =>
    if r.isInverse then r.relatedModel.isSome ∧ r.peerField.isSome
    else r.relatedModel.isSome ∧ r.joinTable.isSome

/-! ### Stored fields -/

/-- A kind asks for the column, and besides only for a length or, if it is a relation, for a model. -/
theorem slotNames_templates (kind : Kind) :
    ∀ t ∈ (Mapping.go kind).templates, ∀ name ∈ Template.slotNames t,
      name = Slot.column.name ∨ kind = .char ∧ name = Slot.maxLength.name ∨ kind.isRelation = true := by
  cases kind <;> decide

theorem relatedModel_mem_slotNames {kind : Kind} (h : kind.isRelation = true) :
    Slot.relatedModel.name ∈ Template.slotNames (Mapping.go kind).type := by
  cases kind <;> first | decide | exact nomatch h

theorem maxLength_mem_slotNames :
    ∃ t ∈ (Mapping.go .char).templates, Slot.maxLength.name ∈ Template.slotNames t :=
  ⟨"type:varchar(" ++ Slot.maxLength.mark ++ ")", by decide, by decide⟩

/-- The values that a stored field has for the templates of its kind. -/
def columnSlots (c : Column) : Slots := { column := some c.column, maxLength := c.maxLength }

theorem exists_filled_iff {template : Option String} {slots : Slots} {field : String} :
    (∃ parts, filled template slots field = .ok parts) ↔
      ∀ t ∈ template, ∃ text, Template.fill t slots field = .ok text := by
  cases template with
  | none => exact ⟨fun _ => nofun, fun _ => ⟨[], rfl⟩⟩
  | some t => simp [filled_some, exists_map_eq_ok_iff]

theorem exists_columnMember_iff {c : Column} :
    (∃ m, columnMember c = .ok m) ↔
      ∀ t ∈ (Mapping.go c.kind).templates, ∀ name ∈ Template.slotNames t,
        ((columnSlots c).get? name).isSome := by
  have parts : (∃ m, columnMember c = .ok m) ↔
      (∃ parts, filled (Mapping.go c.kind).storage (columnSlots c) c.name = .ok parts) ∧
      (∃ parts, filled (Mapping.go c.kind).validation (columnSlots c) c.name = .ok parts) ∧
      ∃ type, Template.fill (Mapping.go c.kind).type (columnSlots c) c.name = .ok type := by
    simp only [columnMember_eq_ok_iff]
    constructor
    · intro h
      obtain ⟨_, storage, hs, validation, hv, type, ht, -⟩ := h
      exact ⟨⟨storage, hs⟩, ⟨validation, hv⟩, type, ht⟩
    · intro h
      obtain ⟨⟨storage, hs⟩, ⟨validation, hv⟩, type, ht⟩ := h
      exact ⟨_, storage, hs, validation, hv, type, ht, rfl⟩
  rw [parts]
  simp only [exists_filled_iff, Template.exists_fill_iff, Mapping.templates, List.forall_mem_cons,
    List.forall_mem_append, Option.mem_toList]
  exact ⟨fun h => ⟨h.2.2, h.1, h.2.1⟩, fun h => ⟨h.2.1, h.2.2, h.1⟩⟩

theorem exists_columnMember_iff_complete {c : Column} :
    (∃ m, columnMember c = .ok m) ↔ Complete (.column c) := by
  rw [exists_columnMember_iff]
  constructor
  · intro h
    constructor
    · cases hk : c.kind.isRelation with
      | false => rfl
      | true =>
        have model := h _ (List.mem_cons_self ..) _ (relatedModel_mem_slotNames hk)
        rw [Slots.get?_name] at model
        exact absurd model Bool.false_ne_true
    · intro hk
      obtain ⟨t, ht, hn⟩ := maxLength_mem_slotNames
      have length := h t (hk ▸ ht) _ hn
      rw [Slots.get?_name] at length
      simpa [Slots.value?, columnSlots] using length
  · intro h t ht name hn
    obtain ⟨stored, length⟩ := h
    rcases slotNames_templates c.kind t ht name hn with rfl | ⟨hk, rfl⟩ | relation
    · rw [Slots.get?_name]
      rfl
    · rw [Slots.get?_name]
      simpa [Slots.value?, columnSlots] using length hk
    · rw [stored] at relation
      exact absurd relation Bool.false_ne_true

/-! ### Relations -/

/-- What is made of two values is there exactly if both are. -/
theorem exists_made_iff {α : Type} {first? second? : Option String} {made : String → String → α} :
    (∃ a, ∃ first, first? = some first ∧ ∃ second, second? = some second ∧ made first second = a) ↔
      first?.isSome ∧ second?.isSome := by
  simp only [Option.isSome_iff_exists]
  constructor
  · intro h
    obtain ⟨_, first, hf, second, hs, -⟩ := h
    exact ⟨⟨first, hf⟩, second, hs⟩
  · intro h
    obtain ⟨⟨first, hf⟩, second, hs⟩ := h
    exact ⟨_, first, hf, second, hs, rfl⟩

theorem exists_referenceMembers_iff {kind : Kind} (hk : Mapping.go kind = Mapping.reference) {name : String}
    {model? join? : Option String} {nullable : Bool} {action : Option String} :
    (∃ ms, referenceMembers kind name model? join? nullable action = .ok ms) ↔
      model?.isSome ∧ join?.isSome := by
  simp only [referenceMembers_eq_ok_iff hk]
  exact exists_made_iff

theorem exists_manyToManyMember_iff {r : ManyToMany} :
    (∃ m, manyToManyMember r = .ok m) ↔ Complete (.manyToMany r) := by
  obtain ⟨name, model?, inverse, table?, join?, peerJoin?, peer?⟩ := r
  cases inverse with
  | false =>
    simp only [manyToManyMember_owning_eq_ok_iff]
    exact exists_made_iff
  | true =>
    simp only [manyToManyMember_inverse_eq_ok_iff]
    exact exists_made_iff

/-! ### Items and entities -/

theorem exists_members_iff {className : String} {item : Item} :
    (∃ ms, (members className item).outcome = .ok ms) ↔ Complete item := by
  cases item with
  | column c =>
    rw [← exists_columnMember_iff_complete]
    exact exists_map_eq_ok_iff
  | oneToOne r =>
    obtain ⟨name, model?, nullable, inverse, join?, action, peer?⟩ := r
    cases inverse with
    | false => exact exists_referenceMembers_iff rfl
    | true => exact ⟨fun _ => trivial, fun _ => ⟨[], rfl⟩⟩
  | manyToOne r =>
    have reference : (∃ ms, (members className (.manyToOne r)).outcome = .ok ms) ↔
        r.relatedModel.isSome ∧ (some r.joinColumn).isSome := exists_referenceMembers_iff rfl
    rw [reference]
    exact and_iff_left rfl
  | oneToMany r => exact ⟨fun _ => trivial, fun _ => ⟨[], rfl⟩⟩
  | manyToMany r =>
    rw [← exists_manyToManyMember_iff]
    exact exists_map_eq_ok_iff

/-- A struct is written exactly if every item has what its members ask for. -/
theorem exists_render_iff {options : Options} {e : Entity} :
    (∃ text, (render options e).outcome = .ok text) ↔ ∀ item ∈ e.items, Complete item := by
  rw [outcome_render, exists_map_eq_ok_iff, exists_mapM_eq_ok_iff]
  simp only [exists_members_iff]

end Go

end EntityGen
