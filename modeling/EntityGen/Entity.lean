import EntityGen.Kind.Basic

/-!
Entities: models in the form that every dialect is written from. Stored fields are columns, and
relations stand in four lists by their shape, each owning or inverse where the shape has two sides.
Names are as the manifest has them. -/
namespace EntityGen

/-- How a stored value comes about without being given. -/
inductive Generation where
  | none
  | autoIncrement
  | uuid
  | setOnCreate
  | setOnUpdate
  deriving DecidableEq, Repr

/-- What a stored value has to observe. -/
inductive Rule where
  | email
  | url
  | ip
  | atLeast (min : Int)
  | choice (values : List String)
  deriving DecidableEq, Repr

/-- A stored field. -/
structure Column where
  name : String
  /-- What the storage calls it. -/
  column : String
  nullable : Bool
  kind : Kind
  valueKind : ValueKind
  generation : Generation
  rules : List Rule
  maxLength : Option UInt32
  primaryKey : Bool
  unique : Bool
  indexed : Bool
  /-- Blank values are refused. -/
  required : Bool
  deriving DecidableEq, Repr

/-- A relation to one entity, from either side of it. Each side has attributes of its own; nothing keeps a record from
having those of both. -/
structure OneToOne where
  name : String
  relatedModel : Option String
  nullable : Bool
  /-- The relation is declared on the other side. -/
  isInverse : Bool
  /-- The column that holds the key, where the relation is declared. -/
  joinColumn : Option String
  /-- What becomes of the entity when the other is deleted, where the relation is declared. -/
  onDelete : Option String
  /-- The field of the other entity that declares the relation, on the inverse side. -/
  peerField : Option String
  deriving DecidableEq, Repr

/-- A relation to one entity whose key is held here. -/
structure ManyToOne where
  name : String
  relatedModel : Option String
  joinColumn : String
  nullable : Bool
  onDelete : Option String
  deriving DecidableEq, Repr

/-- A relation to the entities that hold this one's key, in the field `peerField`. -/
structure OneToMany where
  name : String
  relatedModel : Option String
  peerField : Option String
  deriving DecidableEq, Repr

/-- A relation of many to many, from either side of it, with the attributes of one side or of both. -/
structure ManyToMany where
  name : String
  relatedModel : Option String
  /-- The relation is declared on the other side. -/
  isInverse : Bool
  /-- The table that joins the two, where the relation is declared. -/
  joinTable : Option String
  /-- The column of that table with the key of this entity. -/
  joinColumn : Option String
  /-- The column of that table with the key of the other entity. -/
  peerJoinColumn : Option String
  /-- The field of the other entity that declares the relation, on the inverse side. -/
  peerField : Option String
  deriving DecidableEq, Repr

/-- Why a field is left out. -/
inductive SkipReason where
  | unrecognizedKind (kind : String)
  /-- A many-to-one relation without a column of its own. -/
  | noLocalAttribute
  deriving DecidableEq, Repr

def SkipReason.message : SkipReason → String
  | unrecognizedKind kind => "unrecognized kind `" ++ kind ++ "`"
  | noLocalAttribute => "no local attribute"

structure Skipped where
  name : String
  reason : SkipReason
  deriving DecidableEq, Repr

structure Entity where
  app : String
  className : String
  table : String
  columns : List Column := []
  oneToOne : List OneToOne := []
  manyToOne : List ManyToOne := []
  oneToMany : List OneToMany := []
  manyToMany : List ManyToMany := []
  /-- The fields that are left out. -/
  skipped : List Skipped := []
  deriving DecidableEq, Repr

/-- Something that an entity consists of. -/
inductive Item where
  | column (c : Column)
  | oneToOne (r : OneToOne)
  | manyToOne (r : ManyToOne)
  | oneToMany (r : OneToMany)
  | manyToMany (r : ManyToMany)
  deriving DecidableEq, Repr

namespace Entity

def relationCount (e : Entity) : Nat :=
  e.oneToOne.length + e.manyToOne.length + e.oneToMany.length + e.manyToMany.length

/-- The items of an entity in the order in which they are written. -/
def items (e : Entity) : List Item :=
  e.columns.map .column ++ e.oneToOne.map .oneToOne ++ e.manyToOne.map .manyToOne ++
    e.oneToMany.map .oneToMany ++ e.manyToMany.map .manyToMany

@[simp] theorem length_items (e : Entity) :
    e.items.length = e.columns.length + e.relationCount := by
  simp only [items, relationCount, List.length_append, List.length_map]
  omega

end Entity

end EntityGen
