import EntityGen.Entity.Classify
import EntityGen.Trace

/-!
Models made into entities. Stored fields come first and relations after them, each in the order of their
declaration. Every field becomes an item of the entity or is left out with a reason and an event
(`Field.part`); a field that contradicts itself fails the model. -/
namespace EntityGen

/-- What becomes of a field. -/
inductive Part where
  | item (i : Item)
  | skipped (s : Skipped)
  deriving DecidableEq, Repr

namespace Field

/-- A stored field of a kind that the catalogue has. -/
def toColumn (field : Field) : Except SchemaError Column := do
  let kind ← field.requireKind
  let valueKind ← field.requireValueKind
  return {
    name := field.name
    column := field.columnName
    nullable := field.null
    kind
    valueKind
    generation := field.generation
    rules := field.rules
    maxLength := field.maxLength
    primaryKey := field.primaryKey
    unique := field.unique
    indexed := field.dbIndex
    required := !field.blank }

/-- The attributes of the other side are not taken over. -/
def toOneToOne (field : Field) : OneToOne :=
  if field.isReverse then
    { name := field.name
      relatedModel := field.relatedModel
      nullable := field.null
      isInverse := true
      joinColumn := none
      onDelete := none
      peerField := field.peerField }
  else
    { name := field.name
      relatedModel := field.relatedModel
      nullable := field.null
      isInverse := false
      joinColumn := field.attname
      onDelete := field.onDelete
      peerField := none }

def toManyToOne (field : Field) (attname : String) : ManyToOne where
  name := field.name
  relatedModel := field.relatedModel
  joinColumn := attname
  nullable := field.null
  onDelete := field.onDelete

def toOneToMany (field : Field) : OneToMany where
  name := field.accessor
  relatedModel := field.relatedModel
  peerField := field.peerField

/-- The attributes of the other side are not taken over, and the inverse side goes by the name that the related side
gave it. -/
def toManyToMany (field : Field) : ManyToMany :=
  if field.isReverse then
    { name := field.accessor
      relatedModel := field.relatedModel
      isInverse := true
      joinTable := none
      joinColumn := none
      peerJoinColumn := none
      peerField := field.peerField }
  else
    { name := field.name
      relatedModel := field.relatedModel
      isInverse := false
      joinTable := field.joinTable
      joinColumn := field.joinColumn
      peerJoinColumn := field.peerJoinColumn
      peerField := none }

@[simp] theorem name_toOneToOne (field : Field) : field.toOneToOne.name = field.name := by
  cases h : field.isReverse <;> simp [toOneToOne, h]

theorem name_toManyToMany (field : Field) :
    field.toManyToMany.name = if field.isReverse then field.accessor else field.name := by
  cases h : field.isReverse <;> simp [toManyToMany, h]

/-- A stored field, or one left out because the catalogue does not have its kind. -/
def storedPart (model : String) (field : Field) : Traced SchemaError Part :=
  match field.kind? with
  | none => do
    Traced.tell (.unrecognizedKind model field.name field.kind)
    return .skipped ⟨field.name, .unrecognizedKind field.kind⟩
  | some _ => Traced.ofExcept (field.toColumn.map fun c => .item (.column c))

/-- A relation, which has to have exactly one shape. -/
def relationPart (model : String) (field : Field) : Traced SchemaError Part :=
  if field.shapeCount ≠ 1 then Traced.ofExcept (.error (.ambiguousShape field.name field.shapeCount))
  else if field.oneToOne then return .item (.oneToOne field.toOneToOne)
  else if field.manyToOne then
    match field.attname with
    | some attname => return .item (.manyToOne (field.toManyToOne attname))
    | none => do
      Traced.tell (.unattachedManyToOne model field.name)
      return .skipped ⟨field.name, .noLocalAttribute⟩
  else if field.oneToMany then return .item (.oneToMany field.toOneToMany)
  else return .item (.manyToMany field.toManyToMany)

/-- What becomes of a field of the model of that name. -/
def part (model : String) (field : Field) : Traced SchemaError Part :=
  if field.isRelation then field.relationPart model else field.storedPart model

end Field

namespace Part

def column? : Part → Option Column
  | item (.column c) => some c
  | _ => none

def oneToOne? : Part → Option OneToOne
  | item (.oneToOne r) => some r
  | _ => none

def manyToOne? : Part → Option ManyToOne
  | item (.manyToOne r) => some r
  | _ => none

def oneToMany? : Part → Option OneToMany
  | item (.oneToMany r) => some r
  | _ => none

def manyToMany? : Part → Option ManyToMany
  | item (.manyToMany r) => some r
  | _ => none

def skipped? : Part → Option Skipped
  | skipped s => some s
  | _ => none

end Part

namespace Model

/-- Stored fields first, then relations, each as declared. -/
def inOrder (model : Model) : List Field :=
  model.fields.filter (!·.isRelation) ++ model.fields.filter (·.isRelation)

/-- The entity of a model that has become these parts. -/
def entityOf (app : String) (model : Model) (parts : List Part) : Entity where
  app
  className := model.name
  table := model.table
  columns := parts.filterMap Part.column?
  oneToOne := parts.filterMap Part.oneToOne?
  manyToOne := parts.filterMap Part.manyToOne?
  oneToMany := parts.filterMap Part.oneToMany?
  manyToMany := parts.filterMap Part.manyToMany?
  skipped := parts.filterMap Part.skipped?

/-- A model of the app made into an entity. -/
def normalize (app : String) (model : Model) : Traced SchemaError Entity := do
  let parts ← Traced.forEach (Field.part model.name) model.inOrder
  return entityOf app model parts

end Model

end EntityGen
