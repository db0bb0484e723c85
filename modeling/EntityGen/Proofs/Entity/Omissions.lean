import EntityGen.Proofs.Entity.Partition
import EntityGen.Proofs.Entity.Precedence

/-!
What is told about the fields that are left out. Each of them is told of by one event (`Event.TellsOf`): a warning
with the kind of a field whose kind nobody knows, a note of a relation that has no column. A model tells of its fields
in the order in which it looks at them, stored fields before relations. So an entity has as many events as fields left
out, in the same order, and a model that fails has told of the fields before the one that it fails for
(`normalize_tells`). -/
namespace EntityGen

/-! ### One field -/

/-- The event for a field of the model of that name that is left out. -/
def Skipped.event (model : String) (s : Skipped) : Event :=
  match s.reason with
  | .unrecognizedKind kind => .unrecognizedKind model s.name kind
  | .noLocalAttribute => .unattachedManyToOne model s.name

/-- An event tells that a field of the model of that name is left out, and why. -/
inductive Event.TellsOf (model : String) (event : Event) : Skipped → Prop where
  | unrecognized {name kind : String} : event.level = .warn →
      event.attributes = [("model", model), ("field", name), ("kind", kind)] →
      TellsOf model event ⟨name, .unrecognizedKind kind⟩
  | unattached {name : String} : event.level = .debug →
      event.attributes = [("model", model), ("field", name)] →
      TellsOf model event ⟨name, .noLocalAttribute⟩

theorem Skipped.tellsOf_event (model : String) (s : Skipped) : (s.event model).TellsOf model s := by
  obtain ⟨name, reason⟩ := s
  cases reason with
  | unrecognizedKind kind => exact .unrecognized rfl rfl
  | noLocalAttribute => exact .unattached rfl rfl

theorem Skipped.forall₂_tellsOf (model : String) (skipped : List Skipped) :
    List.Forall₂ (Event.TellsOf model) (skipped.map (Skipped.event model)) skipped := by
  rw [List.forall₂_map_left_iff, List.forall₂_same]
  exact fun s _ => s.tellsOf_event model

namespace Field
variable {field : Field} {model : String}

/-- How a field is left out, if it is: a stored field of no known kind, or a many-to-one relation without a column. -/
def leftOut? (field : Field) : Option Skipped :=
  if field.isRelation then
    if field.shapeCount = 1 ∧ field.manyToOne = true ∧ field.attname = none then
      some ⟨field.name, .noLocalAttribute⟩
    else none
  else if field.kind? = none then some ⟨field.name, .unrecognizedKind field.kind⟩
  else none

theorem omission?_eq : field.omission? model = field.leftOut?.map (Skipped.event model) := by
  unfold omission? leftOut?
  split_ifs <;> rfl

/-- What a field becomes is left out exactly as the field itself tells. -/
theorem Becomes.skipped?_eq {part : Part} (h : field.Becomes part) : part.skipped? = field.leftOut? := by
  cases h with
  | column stored hk | unrecognized stored hk => simp [Part.skipped?, leftOut?, stored, hk]
  | manyToOne s ha | unattached s ha =>
    simp [Part.skipped?, leftOut?, s.relation, s.shapeCount, s.manyToOne, ha]
  | oneToOne s | oneToMany s | manyToMany s => simp [Part.skipped?, leftOut?, s.relation, s.manyToOne]

/-- A field that fails its model is not left out, so nothing is told of it. -/
theorem Refused.leftOut?_eq {error : SchemaError} (h : field.Refused error) : field.leftOut? = none := by
  cases h with
  | unmapped stored known _ => simp [leftOut?, stored, known]
  | ambiguous relation several => simp [leftOut?, relation, several]

end Field

/-! ### All fields -/

theorem flatMap_events_part (model : String) (fields : List Field) :
    (fields.flatMap fun field => (field.part model).events) =
      (fields.filterMap Field.leftOut?).map (Skipped.event model) := by
  simp only [Field.events_part, Field.omission?_eq]
  rw [List.map_filterMap, List.filterMap_eq_flatMap_toList]

theorem filterMap_skipped? {fields : List Field} {parts : List Part} (h : List.Forall₂ Field.Becomes fields parts) :
    parts.filterMap Part.skipped? = fields.filterMap Field.leftOut? := by
  induction h with
  | nil => rfl
  | cons becomes _ ih => rw [List.filterMap_cons, List.filterMap_cons, becomes.skipped?_eq, ih]

namespace Model
variable {app : String} {model : Model}

theorem events_normalize :
    (model.normalize app).events = (Traced.forEach (Field.part model.name) model.inOrder).events := by
  unfold normalize
  cases h : (Traced.forEach (Field.part model.name) model.inOrder).outcome with
  | error e => rw [Traced.bind_of_error h]
  | ok parts => rw [Traced.bind_of_ok h, Traced.events_pure, List.append_nil]

/-- An entity is made with one event for each field that it leaves out. -/
theorem events_of_entity {e : Entity} (made : (model.normalize app).outcome = .ok e) :
    (model.normalize app).events = e.skipped.map (Skipped.event model.name) := by
  obtain ⟨parts, becomes, rfl⟩ := normalize_eq_ok_iff.mp made
  have run : (Traced.forEach (Field.part model.name) model.inOrder).outcome = .ok parts := by
    rw [Traced.outcome_forEach, mapM_eq_ok_iff]
    exact becomes.imp fun _ _ => Field.becomes_iff.mpr
  rw [events_normalize, Traced.events_forEach run, flatMap_events_part, ← filterMap_skipped? becomes]
  rfl

/-- A model that fails has one event for each field left out before the field that it fails for. -/
theorem events_of_error {error : SchemaError} (failed : (model.normalize app).outcome = .error error) :
    ∃ before field after, model.inOrder = before ++ field :: after ∧
      (∀ passed ∈ before, ∃ part, passed.Becomes part) ∧ field.Refused error ∧
      (model.normalize app).events = (before.filterMap Field.leftOut?).map (Skipped.event model.name) := by
  obtain ⟨before, field, after, split, passed, refused⟩ := normalize_eq_error_iff.mp failed
  have silent : (field.part model.name).events = [] := by
    rw [Field.events_part, Field.omission?_eq, (Field.refused_iff.mp refused).leftOut?_eq]
    rfl
  refine ⟨before, field, after, split, ?_, Field.refused_iff.mp refused, ?_⟩
  · simpa only [Field.becomes_iff] using passed
  · rw [events_normalize, split, Traced.events_forEach_append_cons passed refused, silent, List.append_nil,
      flatMap_events_part]

/-- **What is told mirrors what is left out.** If a model is made into an entity, the events tell one by one of the
fields that the entity leaves out. If it fails, they tell of the fields that are left out before the field that it
fails for, where all stored fields come before all relations. -/
theorem normalize_tells (app : String) (model : Model) :
    (∀ e, (model.normalize app).outcome = .ok e →
      List.Forall₂ (Event.TellsOf model.name) (model.normalize app).events e.skipped) ∧
    (∀ error, (model.normalize app).outcome = .error error →
      ∃ before field after,
        model.fields.filter (!·.isRelation) ++ model.fields.filter (·.isRelation) = before ++ field :: after ∧
        (∀ passed ∈ before, ∃ part, passed.Becomes part) ∧ field.Refused error ∧
        List.Forall₂ (Event.TellsOf model.name) (model.normalize app).events (before.filterMap Field.leftOut?)) := by
  constructor
  · intro e made
    rw [events_of_entity made]
    exact Skipped.forall₂_tellsOf model.name e.skipped
  · intro error failed
    obtain ⟨before, field, after, split, passed, refused, told⟩ := events_of_error failed
    refine ⟨before, field, after, split, passed, refused, ?_⟩
    rw [told]
    exact Skipped.forall₂_tellsOf model.name _

/-- An entity that leaves out a place and a target is made with two events. A model that fails for its author has told
of the place, which is declared behind a relation without a shape and before the author, and of no relation. -/
theorem normalize_tells_post :
    (∃ e, (mixed.normalize "blog").outcome = .ok e ∧ e.skipped.map (·.name) = ["place", "target"] ∧
      List.Forall₂ (Event.TellsOf "Post") (mixed.normalize "blog").events e.skipped) ∧
    (faulty.normalize "blog").outcome = .error (.unmappedValueKind "author" .foreignKey) ∧
    (faulty.normalize "blog").events = [.unrecognizedKind "Post" "place" "PointField"] ∧
    ∃ before field after,
      faulty.fields.filter (!·.isRelation) ++ faulty.fields.filter (·.isRelation) = before ++ field :: after ∧
      (∀ passed ∈ before, ∃ part, passed.Becomes part) ∧
      field.Refused (.unmappedValueKind "author" .foreignKey) ∧
      List.Forall₂ (Event.TellsOf "Post") (faulty.normalize "blog").events (before.filterMap Field.leftOut?) :=
  ⟨⟨_, rfl, rfl, (normalize_tells "blog" mixed).1 _ rfl⟩, rfl, rfl, (normalize_tells "blog" faulty).2 _ rfl⟩

end Model

end EntityGen
