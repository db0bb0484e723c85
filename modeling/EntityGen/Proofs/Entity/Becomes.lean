import EntityGen.Entity.Normalize
import EntityGen.Proofs.Sequence

/-!
What one field becomes. `Field.Becomes` lists the seven ways that a field can go, each with all that has
to hold for it; `becomes_iff` says that these are what `Field.part` does. The entity of a model is made
from what its fields become, one by one (`normalize_eq_ok_iff`). -/
namespace EntityGen

/-- The relation is of the shape whose flag is set, and of no other. -/
structure Field.HasShape (field : Field) (oneToOne manyToOne oneToMany manyToMany : Bool) : Prop where
  relation : field.isRelation = true
  oneToOne : field.oneToOne = oneToOne
  manyToOne : field.manyToOne = manyToOne
  oneToMany : field.oneToMany = oneToMany
  manyToMany : field.manyToMany = manyToMany

/-- The ways that a field can go. -/
inductive Field.Becomes (field : Field) : Part → Prop where
  | column {kind c} : field.isRelation = false → field.kind? = some kind → field.toColumn = .ok c →
      Becomes field (.item (.column c))
  | unrecognized : field.isRelation = false → field.kind? = none →
      Becomes field (.skipped ⟨field.name, .unrecognizedKind field.kind⟩)
  | oneToOne : field.HasShape true false false false →
      Becomes field (.item (.oneToOne field.toOneToOne))
  | manyToOne {attname} : field.HasShape false true false false → field.attname = some attname →
      Becomes field (.item (.manyToOne (field.toManyToOne attname)))
  | unattached : field.HasShape false true false false → field.attname = none →
      Becomes field (.skipped ⟨field.name, .noLocalAttribute⟩)
  | oneToMany : field.HasShape false false true false →
      Becomes field (.item (.oneToMany field.toOneToMany))
  | manyToMany : field.HasShape false false false true →
      Becomes field (.item (.manyToMany field.toManyToMany))

namespace Field
variable {field : Field} {model : String} {p : Part}

/-! ### Columns -/

theorem requireKind_eq_ok_iff {kind : Kind} :
    field.requireKind = .ok kind ↔ field.kind? = some kind := by
  unfold requireKind
  cases field.kind? <;> simp

theorem requireValueKind_eq_ok_iff {value : ValueKind} :
    field.requireValueKind = .ok value ↔
      ∃ kind, field.kind? = some kind ∧ kind.valueKind? = some value := by
  unfold requireValueKind requireKind
  cases hk : field.kind? with
  | none => simp
  | some kind => cases hv : kind.valueKind? <;> simp [hv]

/-- A column has its kind and value kind from the catalogue and the rest from its field. -/
theorem toColumn_eq_ok_iff {c : Column} :
    field.toColumn = .ok c ↔
      ∃ kind value, field.kind? = some kind ∧ kind.valueKind? = some value ∧
        c = ⟨field.name, field.columnName, field.null, kind, value, field.generation, field.rules,
          field.maxLength, field.primaryKey, field.unique, field.dbIndex, !field.blank⟩ := by
  unfold toColumn
  simp only [bind_eq_ok_iff, requireKind_eq_ok_iff, requireValueKind_eq_ok_iff]
  constructor
  · intro h
    obtain ⟨kind, hk, value, ⟨kind', hk', hv⟩, hc⟩ := h
    obtain rfl := Option.some.inj (hk.symm.trans hk')
    exact ⟨kind, value, hk, hv, (Except.ok.inj hc).symm⟩
  · intro h
    obtain ⟨kind, value, hk, hv, rfl⟩ := h
    exact ⟨kind, hk, value, ⟨kind, hk, hv⟩, rfl⟩

/-! ### Shapes -/

/-- A relation that claims one shape has it and no other. -/
theorem hasShape_of_shapeCount (relation : field.isRelation = true) (one : field.shapeCount = 1) :
    field.HasShape true false false false ∨ field.HasShape false true false false ∨
      field.HasShape false false true false ∨ field.HasShape false false false true := by
  unfold shapeCount at one
  cases h1 : field.oneToOne <;> cases h2 : field.manyToOne <;> cases h3 : field.oneToMany <;>
    cases h4 : field.manyToMany <;> simp [h1, h2, h3, h4] at one
  · exact .inr (.inr (.inr ⟨relation, h1, h2, h3, h4⟩))
  · exact .inr (.inr (.inl ⟨relation, h1, h2, h3, h4⟩))
  · exact .inr (.inl ⟨relation, h1, h2, h3, h4⟩)
  · exact .inl ⟨relation, h1, h2, h3, h4⟩

theorem HasShape.shapeCount {a b c d : Bool} (h : field.HasShape a b c d) :
    field.shapeCount = a.toNat + b.toNat + c.toNat + d.toNat := by
  rw [Field.shapeCount, h.oneToOne, h.manyToOne, h.oneToMany, h.manyToMany]

/-! ### Stored fields -/

theorem storedPart_eq_ok_iff (stored : field.isRelation = false) :
    (field.storedPart model).outcome = .ok p ↔ field.Becomes p := by
  unfold storedPart
  cases hk : field.kind? with
  | none =>
    constructor
    · intro h
      cases h
      exact .unrecognized stored hk
    · intro h
      rcases h with ⟨_, hk', _⟩ | _ | h | ⟨h, _⟩ | ⟨h, _⟩ | h | h
      · exact nomatch hk.symm.trans hk'
      · rfl
      all_goals exact nomatch stored.symm.trans h.relation
  | some kind =>
    rw [Traced.outcome_ofExcept, map_eq_ok_iff]
    constructor
    · intro h
      obtain ⟨c, hc, rfl⟩ := h
      exact .column stored hk hc
    · intro h
      rcases h with ⟨_, _, hc⟩ | ⟨_, hk'⟩ | h | ⟨h, _⟩ | ⟨h, _⟩ | h | h
      · exact ⟨_, hc, rfl⟩
      · exact nomatch hk.symm.trans hk'
      all_goals exact nomatch stored.symm.trans h.relation

/-! ### Relations -/

theorem becomes_of_relationPart (relation : field.isRelation = true)
    (h : (field.relationPart model).outcome = .ok p) : field.Becomes p := by
  have one : field.shapeCount = 1 := by
    by_contra hne
    simp only [relationPart, ne_eq, hne, not_false_eq_true, if_true] at h
    exact nomatch h
  simp only [relationPart, one, ne_eq, not_true_eq_false, if_false] at h
  rcases hasShape_of_shapeCount relation one with s | s | s | s <;>
    simp only [s.oneToOne, s.manyToOne, s.oneToMany, Bool.false_eq_true, if_false, if_true] at h
  · cases h
    exact .oneToOne s
  · cases ha : field.attname with
    | none =>
      rw [ha] at h
      cases h
      exact .unattached s ha
    | some attname =>
      rw [ha] at h
      cases h
      exact .manyToOne s ha
  · cases h
    exact .oneToMany s
  · cases h
    exact .manyToMany s

theorem relationPart_of_becomes (relation : field.isRelation = true) (h : field.Becomes p) :
    (field.relationPart model).outcome = .ok p := by
  cases h with
  | column stored => exact nomatch stored.symm.trans relation
  | unrecognized stored => exact nomatch stored.symm.trans relation
  | oneToOne s => simp [relationPart, s.shapeCount, s.oneToOne]
  | manyToOne s ha => simp [relationPart, s.shapeCount, s.oneToOne, s.manyToOne, ha]
  | unattached s ha => simp [relationPart, s.shapeCount, s.oneToOne, s.manyToOne, ha]
  | oneToMany s => simp [relationPart, s.shapeCount, s.oneToOne, s.manyToOne, s.oneToMany]
  | manyToMany s => simp [relationPart, s.shapeCount, s.oneToOne, s.manyToOne, s.oneToMany]

/-- What a field becomes is what has been listed for it. -/
theorem becomes_iff : (field.part model).outcome = .ok p ↔ field.Becomes p := by
  unfold part
  cases hr : field.isRelation with
  | false => exact storedPart_eq_ok_iff hr
  | true => exact ⟨becomes_of_relationPart hr, relationPart_of_becomes hr⟩

/-! ### What is told -/

/-- The event of a field that is left out. -/
def omission? (model : String) (field : Field) : Option Event :=
  if field.isRelation then
    if field.shapeCount = 1 ∧ field.manyToOne = true ∧ field.attname = none then
      some (.unattachedManyToOne model field.name)
    else none
  else if field.kind? = none then some (.unrecognizedKind model field.name field.kind)
  else none

/-- Nothing is told of a field unless it is left out. -/
theorem events_part : (field.part model).events = (field.omission? model).toList := by
  unfold part omission?
  by_cases relation : field.isRelation = true
  · rw [if_pos relation, if_pos relation]
    unfold relationPart
    by_cases one : field.shapeCount = 1
    · rcases hasShape_of_shapeCount relation one with s | s | s | s
      · simp [one, s.oneToOne, s.manyToOne]
      · cases field.attname <;> simp [one, s.oneToOne, s.manyToOne]
      · simp [one, s.oneToOne, s.manyToOne, s.oneToMany]
      · simp [one, s.oneToOne, s.manyToOne, s.oneToMany]
    · simp [one]
  · rw [if_neg relation, if_neg relation]
    unfold storedPart
    cases h : field.kind? <;> simp

end Field

/-! ### Models -/

/-- An entity is what the fields of its model become, in order. -/
theorem Model.normalize_eq_ok_iff {app : String} {model : Model} {e : Entity} :
    (model.normalize app).outcome = .ok e ↔
      ∃ parts, List.Forall₂ Field.Becomes model.inOrder parts ∧ entityOf app model parts = e := by
  rw [normalize, Traced.outcome_bind, bind_eq_ok_iff]
  simp only [Traced.outcome_forEach, mapM_eq_ok_iff, Field.becomes_iff, Traced.outcome_pure,
    Except.ok.injEq]

/-- A model fails as the first of its fields that cannot be part of an entity, in order. -/
theorem Model.normalize_eq_error_iff {app : String} {model : Model} {error : SchemaError} :
    (model.normalize app).outcome = .error error ↔
      FailsFirst (fun field => (field.part model.name).outcome) model.inOrder error := by
  rw [normalize, Traced.outcome_bind, bind_eq_error_iff, Traced.outcome_forEach, mapM_eq_error_iff]
  exact or_iff_left fun ⟨_, _, failed⟩ => nomatch failed

end EntityGen
