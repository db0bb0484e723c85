import EntityGen.Dialect.Mapping
import EntityGen.Entity
import EntityGen.Identifier

/-!
Entities as Kotlin classes with JPA annotations. Every item becomes one block of the class: an empty
line, annotations, and the declaration of its property. -/
namespace EntityGen.Kotlin
open Text

/-- An annotation with its arguments, if there are any. -/
def annotated (name : String) (arguments : List String) : String :=
  if arguments.isEmpty then name else name ++ "(" ++ sepBy ", " arguments ++ ")"

/-- The declaration of a property. -/
def property (name type : String) (nullable : Bool) : String :=
  "var " ++ Identifier.kotlin name ++ ": " ++ type ++ (if nullable then "?" else "") ++ ","

def generationAnnotations : Generation → List String
  | .none => []
  | .autoIncrement => ["@GeneratedValue(strategy = GenerationType.IDENTITY)"]
  | .uuid =>
    ["@GeneratedValue(generator = \"uuid2\")",
     "@GenericGenerator(name = \"uuid2\", strategy = \"uuid2\")"]
  | .setOnCreate => ["@CreationTimestamp"]
  | .setOnUpdate => ["@UpdateTimestamp"]

/-- The annotation of a rule; some rules have none. -/
def ruleMark? : Rule → Option String
  | .email => some "@Email"
  | .url => some "@URL"
  | .atLeast min => some ("@Min(" ++ toString min ++ ")")
  | .ip | .choice _ => none

def columnBlock (c : Column) : Except SchemaError (List String) := do
  let type ← Template.fill (Mapping.kotlin c.kind).type {} c.name
  return (if c.nullable then "@Column(nullable = true)" else "@NotNull") ::
    onlyIf c.primaryKey "@Id" ++ generationAnnotations c.generation ++
    c.rules.filterMap ruleMark? ++ [property c.name type c.nullable]

def notNull (nullable : Bool) : List String := onlyIf (!nullable) "@NotNull"

def optionalArgument (nullable : Bool) : List String := onlyIf nullable "optional = true"

def oneToOneBlock (r : OneToOne) : Except SchemaError (List String) := do
  let slots : Slots :=
    { relatedModel := r.relatedModel, joinColumn := r.joinColumn, peerField := r.peerField }
  if r.isInverse then
    let mappedBy ← Template.fill ("mappedBy = \"" ++ Slot.peerField.mark ++ "\"") slots r.name
    let type ← Template.fill (Mapping.kotlin .oneToOneRel).type slots r.name
    return notNull r.nullable ++
      [annotated "@OneToOne" (mappedBy :: optionalArgument r.nullable),
       property r.name type r.nullable]
  else
    let join ←
      Template.fill ("@JoinColumn(name = \"" ++ Slot.joinColumn.mark ++ "\")") slots r.name
    let type ← Template.fill (Mapping.kotlin .oneToOne).type slots r.name
    return notNull r.nullable ++
      [annotated "@OneToOne" (optionalArgument r.nullable), join,
       property r.name type r.nullable]

def manyToOneBlock (r : ManyToOne) : Except SchemaError (List String) := do
  let type ← Template.fill (Mapping.kotlin .foreignKey).type { relatedModel := r.relatedModel } r.name
  return notNull r.nullable ++
    [annotated "@ManyToOne" (optionalArgument r.nullable),
     "@JoinColumn(name = \"" ++ r.joinColumn ++ "\")",
     property r.name type r.nullable]

def oneToManyBlock (r : OneToMany) : Except SchemaError (List String) := do
  let slots : Slots := { relatedModel := r.relatedModel, peerField := r.peerField }
  let mappedBy ←
    Template.fill ("@OneToMany(mappedBy = \"" ++ Slot.peerField.mark ++ "\")") slots r.name
  let type ← Template.fill (Mapping.kotlin .manyToOneRel).type slots r.name
  return [mappedBy, property r.name type false]

/-- The values of a many-to-many relation, but for the columns of its table. -/
def manyToManySlots (r : ManyToMany) : Slots where
  relatedModel := r.relatedModel
  joinTable := r.joinTable
  peerField := r.peerField

/-- The lines of a many-to-many relation before its property. -/
def manyToManyAnnotations (r : ManyToMany) : Except SchemaError (List String) := do
  if r.isInverse then
    let mappedBy ←
      Template.fill ("@ManyToMany(mappedBy = \"" ++ Slot.peerField.mark ++ "\")") (manyToManySlots r) r.name
    return [mappedBy]
  else
    let table ← Template.fill ("name = \"" ++ Slot.joinTable.mark ++ "\",") (manyToManySlots r) r.name
    let join ←
      Template.fill ("joinColumns = [JoinColumn(name = \"" ++ Slot.joinColumn.mark ++ "\")],")
        { joinColumn := r.joinColumn } r.name
    let inverse ←
      Template.fill ("inverseJoinColumns = [JoinColumn(name = \"" ++ Slot.joinColumn.mark ++ "\")]")
        { joinColumn := r.peerJoinColumn } r.name
    return ["@ManyToMany", "@JoinTable(", "    " ++ table, "    " ++ join, "    " ++ inverse, ")"]

def manyToManyBlock (r : ManyToMany) : Except SchemaError (List String) := do
  let annotations ← manyToManyAnnotations r
  let type ← Template.fill (Mapping.kotlin .manyToMany).type (manyToManySlots r) r.name
  return annotations ++ [property r.name type false]

/-- The lines of an item. -/
def block : Item → Except SchemaError (List String)
  | .column c => columnBlock c
  | .oneToOne r => oneToOneBlock r
  | .manyToOne r => manyToOneBlock r
  | .oneToMany r => oneToManyBlock r
  | .manyToMany r => manyToManyBlock r

/-- A block as it stands in the class. -/
def layout (lines : List String) : String :=
  "\n" ++ concat (lines.map fun line => "    " ++ line ++ "\n")

def declaration (className table : String) (blocks : List (List String)) : String :=
  "@Entity\n@Table(name = \"" ++ table ++ "\")\nclass " ++ className ++ " (\n" ++
    concat (blocks.map layout) ++ ")\n\n"

def render (e : Entity) : Except SchemaError String := do
  let blocks ← e.items.mapM block
  return declaration e.className e.table blocks

end EntityGen.Kotlin
