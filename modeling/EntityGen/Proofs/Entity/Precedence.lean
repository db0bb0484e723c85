import EntityGen.Proofs.Entity.Origins

/-!
Which field a model fails for. A model fails if a field that is not declared as a relation has a kind of relations
(`Field.isMisplaced`), or if a relation does not have exactly one shape (`Field.isIllShaped`), and for nothing else. All
stored fields are looked at before the first relation, so a misplaced field counts before an ill-shaped relation that is
declared above it, and a field that is left out hides no other (`Model.find?_inOrder`). `normalize_fails_at` says which
field the error is at, and what it says of it. -/
namespace EntityGen

namespace Field
variable {field : Field} {error : SchemaError}

/-- The four shapes of relations, each claimed by the field or not. -/
def shapes (field : Field) : List Bool := [field.oneToOne, field.manyToOne, field.oneToMany, field.manyToMany]

/-- The field is not declared as a relation, and its kind is one of relations. -/
def isMisplaced (field : Field) : Bool := !field.isRelation && field.kind?.any Kind.isRelation

/-- The field is declared as a relation, and does not claim exactly one shape. -/
def isIllShaped (field : Field) : Bool := field.isRelation && decide (field.shapes.count true ≠ 1)

theorem count_shapes (field : Field) : field.shapes.count true = field.shapeCount := by
  unfold shapes shapeCount
  cases field.oneToOne <;> cases field.manyToOne <;> cases field.oneToMany <;> cases field.manyToMany <;> rfl

theorem isMisplaced_iff :
    field.isMisplaced = true ↔
      field.isRelation = false ∧ ∃ kind, field.kind? = some kind ∧ kind.isRelation = true := by
  simp [isMisplaced, Option.any_eq_true]

theorem isIllShaped_iff :
    field.isIllShaped = true ↔ field.isRelation = true ∧ field.shapes.count true ≠ 1 := by
  simp [isIllShaped]

/-! ### One field -/

theorem refused_iff_of_isMisplaced (misplaced : field.isMisplaced = true) :
    field.Refused error ↔ ∃ kind, field.kind? = some kind ∧ error = .unmappedValueKind field.name kind := by
  obtain ⟨stored, kind, known, relational⟩ := isMisplaced_iff.mp misplaced
  constructor
  · intro h
    cases h with
    | unmapped _ known' => exact ⟨_, known', rfl⟩
    | ambiguous relation => exact nomatch stored.symm.trans relation
  · intro h
    obtain ⟨kind', known', rfl⟩ := h
    obtain rfl := Option.some.inj (known.symm.trans known')
    exact .unmapped stored known ((Kind.valueKind?_eq_none_iff kind).mpr relational)

theorem refused_iff_of_isIllShaped (illShaped : field.isIllShaped = true) :
    field.Refused error ↔ error = .ambiguousShape field.name (field.shapes.count true) := by
  obtain ⟨relation, several⟩ := isIllShaped_iff.mp illShaped
  rw [count_shapes] at several ⊢
  constructor
  · intro h
    cases h with
    | unmapped stored => exact nomatch stored.symm.trans relation
    | ambiguous => rfl
  · intro h
    rw [h]
    exact .ambiguous relation several

/-- Exactly the misplaced fields and the ill-shaped relations fail their model. -/
theorem exists_refused_iff : (∃ error, field.Refused error) ↔ (field.isMisplaced || field.isIllShaped) = true := by
  rw [Bool.or_eq_true]
  constructor
  · intro h
    obtain ⟨_, refused⟩ := h
    cases refused with
    | unmapped stored known none =>
      exact .inl (isMisplaced_iff.mpr ⟨stored, _, known, (Kind.valueKind?_eq_none_iff _).mp none⟩)
    | ambiguous relation several => exact .inr (isIllShaped_iff.mpr ⟨relation, count_shapes field ▸ several⟩)
  · intro h
    rcases h with misplaced | illShaped
    · obtain ⟨_, kind, known, _⟩ := isMisplaced_iff.mp misplaced
      exact ⟨_, (refused_iff_of_isMisplaced misplaced).mpr ⟨kind, known, rfl⟩⟩
    · exact ⟨_, (refused_iff_of_isIllShaped illShaped).mpr rfl⟩

end Field

/-! ### The first field -/

namespace Model
variable {app : String} {error : SchemaError}

/-- The first field that fails its model is the first misplaced one or, if there is none, the first ill-shaped one. -/
theorem find?_inOrder (model : Model) :
    model.inOrder.find? (fun field => field.isMisplaced || field.isIllShaped) =
      (model.fields.find? Field.isMisplaced).or (model.fields.find? Field.isIllShaped) := by
  rw [inOrder, List.find?_append, List.find?_filter, List.find?_filter]
  -- A stored field can only be misplaced and a relation only ill-shaped, so each search looks for one fault.
  congr 2
  · funext field
    cases h : field.isRelation <;> simp [Field.isMisplaced, Field.isIllShaped, h]
  · funext field
    cases h : field.isRelation <;> simp [Field.isMisplaced, Field.isIllShaped, h]

/-- A model fails as its first misplaced or ill-shaped field does. -/
theorem normalize_eq_error_iff_find? {model : Model} :
    (model.normalize app).outcome = .error error ↔
      ∃ field, (model.fields.find? Field.isMisplaced).or (model.fields.find? Field.isIllShaped) = some field ∧
        field.Refused error := by
  have tested : ∀ field : Field, (field.isMisplaced || field.isIllShaped) = true ↔
      ∃ error, (field.part model.name).outcome = .error error := by
    intro field
    simp only [Field.refused_iff, Field.exists_refused_iff]
  rw [normalize_eq_error_iff, failsFirst_iff_find? tested, find?_inOrder]
  simp only [Field.refused_iff]

/-- **Which field a model fails for.** A model fails exactly if one of its fields is misplaced or ill-shaped. If one is
misplaced, the error names the first of these and its kind, whatever relations are declared before it. If none is, the
error names the first ill-shaped relation and counts its shapes, whatever is left out before it. -/
theorem normalize_fails_at (app : String) (model : Model) :
    ((∃ error, (model.normalize app).outcome = .error error) ↔
      ∃ field ∈ model.fields, field.isMisplaced = true ∨ field.isIllShaped = true) ∧
    (∀ field, model.fields.find? Field.isMisplaced = some field →
      ∃ kind, field.kind? = some kind ∧
        (model.normalize app).outcome = .error (.unmappedValueKind field.name kind)) ∧
    (model.fields.find? Field.isMisplaced = none → ∀ field, model.fields.find? Field.isIllShaped = some field →
      (model.normalize app).outcome = .error (.ambiguousShape field.name (field.shapes.count true))) := by
  refine ⟨?_, fun field first => ?_, fun absent field first => ?_⟩
  · simp only [normalize_eq_error_iff, exists_failsFirst_iff, mem_inOrder, Field.refused_iff, Field.exists_refused_iff,
      Bool.or_eq_true]
  · have misplaced : field.isMisplaced = true := List.find?_some first
    obtain ⟨-, kind, known, -⟩ := Field.isMisplaced_iff.mp misplaced
    refine ⟨kind, known, normalize_eq_error_iff_find?.mpr ⟨field, ?_, ?_⟩⟩
    · rw [first, Option.some_or]
    · exact (Field.refused_iff_of_isMisplaced misplaced).mpr ⟨kind, known, rfl⟩
  · have illShaped : field.isIllShaped = true := List.find?_some first
    refine normalize_eq_error_iff_find?.mpr ⟨field, ?_, ?_⟩
    · rw [absent, first, Option.none_or]
    · exact (Field.refused_iff_of_isIllShaped illShaped).mpr rfl

/-- A model with every kind of fault: a relation of no shape, a field of no known kind, a relation without a column,
two relations among the stored fields, and a relation of two shapes. -/
def faulty : Model where
  name := "Post"
  table := "blog_post"
  fields := [
    { name := "owner", kind := "ForeignKey", isRelation := true, attname := some "owner_id" },
    { name := "place", kind := "PointField" },
    { name := "target", kind := "GenericForeignKey", isRelation := true, manyToOne := true },
    { name := "author", kind := "ForeignKey" },
    { name := "tags", kind := "ManyToManyField" },
    { name := "parent", kind := "OneToOneField", isRelation := true, oneToOne := true, manyToOne := true }]

/-- The author is to blame, though the owner stands first; without stored fields, the owner; and from the relation
without a column on, the parent. -/
theorem normalize_fails_at_author :
    (faulty.normalize "blog").outcome = .error (.unmappedValueKind "author" .foreignKey) ∧
    ({ faulty with fields := faulty.fields.filter (·.isRelation) }.normalize "blog").outcome =
      .error (.ambiguousShape "owner" 0) ∧
    ({ faulty with fields := (faulty.fields.drop 1).filter (·.isRelation) }.normalize "blog").outcome =
      .error (.ambiguousShape "parent" 2) := by
  obtain ⟨-, misplaced, -⟩ := normalize_fails_at "blog" faulty
  obtain ⟨kind, known, author⟩ := misplaced _ rfl
  cases known
  obtain ⟨-, -, owner⟩ := normalize_fails_at "blog" { faulty with fields := faulty.fields.filter (·.isRelation) }
  obtain ⟨-, -, parent⟩ :=
    normalize_fails_at "blog" { faulty with fields := (faulty.fields.drop 1).filter (·.isRelation) }
  exact ⟨author, owner rfl _ rfl, parent rfl _ rfl⟩

end Model

end EntityGen
