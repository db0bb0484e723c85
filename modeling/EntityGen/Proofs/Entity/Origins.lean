import EntityGen.Proofs.Entity.Becomes
import EntityGen.Proofs.Entity.Items

/-!
Where the items and the errors of a model come from. An item of an entity is of one field of the model, under the
name that the field goes by (`Model.exists_field_of_item`). A model that is not an entity has a field that cannot be
part of one, and `Field.Refused` lists how that can be (`Model.exists_field_of_error`). -/
namespace EntityGen

namespace Field
variable {field : Field} {model : String} {error : SchemaError}

/-! ### Items -/

/-- The name that a field goes by in an entity: a one-to-many relation and the inverse side of a many-to-many relation
by their accessors, any other by its own. -/
def itemName (field : Field) : String :=
  if field.isRelation && (field.oneToMany || field.manyToMany && field.isReverse) then field.accessor else field.name

theorem Becomes.name_eq {item : Item} (h : field.Becomes (.item item)) : item.name = field.itemName := by
  cases h with
  | column stored hk hc =>
    obtain ⟨_, _, _, _, rfl⟩ := toColumn_eq_ok_iff.mp hc
    simp [Item.name, itemName, stored]
  | oneToOne s => simp [Item.name, itemName, s.oneToMany, s.manyToMany]
  | manyToOne s _ => simp [Item.name, itemName, toManyToOne, s.oneToMany, s.manyToMany]
  | oneToMany s => simp [Item.name, itemName, toOneToMany, s.relation, s.oneToMany]
  | manyToMany s => simp [Item.name, itemName, name_toManyToMany, s.relation, s.oneToMany, s.manyToMany]

/-! ### Errors -/

/-- The ways that a field can fail its model. -/
inductive Refused (field : Field) : SchemaError → Prop where
  | unmapped {kind} : field.isRelation = false → field.kind? = some kind → kind.valueKind? = none →
      Refused field (.unmappedValueKind field.name kind)
  | ambiguous : field.isRelation = true → field.shapeCount ≠ 1 →
      Refused field (.ambiguousShape field.name field.shapeCount)

theorem Refused.field_eq (h : field.Refused error) : error.field = field.name := by
  cases h <;> rfl

theorem toColumn_eq_error_iff {kind : Kind} (hk : field.kind? = some kind) :
    field.toColumn = .error error ↔ kind.valueKind? = none ∧ error = .unmappedValueKind field.name kind := by
  have required : field.requireKind = .ok kind := requireKind_eq_ok_iff.mpr hk
  simp only [toColumn, bind_eq_error_iff, required, requireValueKind]
  cases hv : kind.valueKind? <;> simp [pure, Except.pure, eq_comm]

theorem storedPart_eq_error_iff (stored : field.isRelation = false) :
    (field.storedPart model).outcome = .error error ↔ field.Refused error := by
  unfold storedPart
  cases hk : field.kind? with
  | none =>
    refine ⟨nofun, fun h => ?_⟩
    cases h with
    | unmapped _ hk' => exact nomatch hk.symm.trans hk'
    | ambiguous relation => exact nomatch stored.symm.trans relation
  | some kind =>
    rw [Traced.outcome_ofExcept, map_eq_error_iff, toColumn_eq_error_iff hk]
    constructor
    · intro h
      obtain ⟨hv, rfl⟩ := h
      exact .unmapped stored hk hv
    · intro h
      cases h with
      | unmapped _ hk' hv =>
        obtain rfl := Option.some.inj (hk.symm.trans hk')
        exact ⟨hv, rfl⟩
      | ambiguous relation => exact nomatch stored.symm.trans relation

theorem relationPart_eq_error_iff (relation : field.isRelation = true) :
    (field.relationPart model).outcome = .error error ↔ field.Refused error := by
  by_cases one : field.shapeCount = 1
  -- A relation of one shape is kept or left out, and neither fails.
  · have becomes : ∃ part, (field.relationPart model).outcome = .ok part := by
      unfold relationPart
      rw [if_neg (not_not_intro one)]
      split_ifs <;> try exact ⟨_, rfl⟩
      cases field.attname <;> exact ⟨_, rfl⟩
    obtain ⟨part, ok⟩ := becomes
    refine ⟨fun h => (nomatch ok.symm.trans h), fun h => ?_⟩
    cases h with
    | unmapped stored => exact nomatch stored.symm.trans relation
    | ambiguous _ several => exact absurd one several
  · unfold relationPart
    rw [if_pos one]
    constructor
    · intro h
      cases h
      exact .ambiguous relation one
    · intro h
      cases h with
      | unmapped stored => exact nomatch stored.symm.trans relation
      | ambiguous => rfl

/-- A field fails its model as has been listed for it. -/
theorem refused_iff : (field.part model).outcome = .error error ↔ field.Refused error := by
  unfold part
  cases h : field.isRelation with
  | false => exact storedPart_eq_error_iff h
  | true => exact relationPart_eq_error_iff h

end Field

/-! ### Models -/

namespace Model
variable {app : String} {model : Model}

theorem mem_inOrder {field : Field} : field ∈ model.inOrder ↔ field ∈ model.fields := by
  cases h : field.isRelation <;> simp [inOrder, h]

theorem mem_parts_of_picked {γ : Type} {pick : Part → Option γ} {wrap : γ → Item}
    (back : ∀ part c, pick part = some c → part = .item (wrap c)) (parts : List Part) :
    ∀ c ∈ parts.filterMap pick, .item (wrap c) ∈ parts := by
  intro c there
  obtain ⟨part, mem, picked⟩ := List.mem_filterMap.mp there
  rwa [← back part c picked]

/-- The items of an entity are among the parts that it is made of. -/
theorem mem_parts_of_mem_items {parts : List Part} :
    ∀ item ∈ (entityOf app model parts).items, .item item ∈ parts := by
  rw [Entity.forall_mem_items]
  refine ⟨mem_parts_of_picked ?_ parts, mem_parts_of_picked ?_ parts, mem_parts_of_picked ?_ parts,
    mem_parts_of_picked ?_ parts, mem_parts_of_picked ?_ parts⟩
  all_goals
    intro part c picked
    cases part with
    | skipped => exact nomatch picked
    | item item =>
      cases item <;> simp only [Part.column?, Part.oneToOne?, Part.manyToOne?, Part.oneToMany?, Part.manyToMany?,
        Option.some.injEq, reduceCtorEq] at picked
      rw [picked]

/-- An item of an entity is of a field of the model. -/
theorem exists_field_of_item {e : Entity} (made : (model.normalize app).outcome = .ok e) {item : Item}
    (there : item ∈ e.items) : ∃ field ∈ model.fields, field.Becomes (.item item) := by
  obtain ⟨parts, becomes, rfl⟩ := normalize_eq_ok_iff.mp made
  obtain ⟨field, mem, own⟩ := exists_of_mem_forall₂ becomes (mem_parts_of_mem_items item there)
  exact ⟨field, mem_inOrder.mp mem, own⟩

/-- A model that is not an entity has a field that fails it. -/
theorem exists_field_of_error {error : SchemaError} (failed : (model.normalize app).outcome = .error error) :
    ∃ field ∈ model.fields, field.Refused error := by
  obtain ⟨before, field, after, split, -, failed⟩ := normalize_eq_error_iff.mp failed
  have mem : field ∈ model.inOrder := split ▸ List.mem_append_right _ (List.mem_cons_self ..)
  exact ⟨field, mem_inOrder.mp mem, Field.refused_iff.mp failed⟩

end Model

end EntityGen
