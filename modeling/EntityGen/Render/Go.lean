import EntityGen.Dialect.Mapping
import EntityGen.Entity
import EntityGen.Identifier
import EntityGen.Text.Blank
import EntityGen.Trace

/-!
Entities as Go structs with GORM tags. An item becomes members of the struct first, the tags of each in
lists; members are laid out in columns afterwards, with the kinds of tags that are asked for. So which
tags are asked for decides nothing but the tags. The inverse side of a one-to-one relation and a
one-to-many relation have no member, and an event says so. -/
namespace EntityGen.Go
open Text

/-- Which tags to write. -/
structure Options where
  storageTags : Bool := true
  validationTags : Bool := true
  deriving DecidableEq, Repr

/-- A member of a struct. -/
inductive Member where
  | tagged (identifier type : String) (storage validation : List String)
  | commented (identifier type comment : String)
  deriving DecidableEq, Repr

/-! ### Layout -/

/-- The tags of a member between backticks, or nothing. -/
def tags (options : Options) (storage validation : List String) : String :=
  let parts :=
    (if options.storageTags && !storage.isEmpty then ["gorm:\"" ++ sepBy ";" storage ++ "\""] else []) ++
    (if options.validationTags && !validation.isEmpty then
      ["validate:\"" ++ sepBy "," validation ++ "\""] else [])
  if parts.isEmpty then "" else "`" ++ sepBy " " parts ++ "`"

/-- Three columns, the first two of at least 25 and 12 characters. -/
def columns (identifier type last : String) : String :=
  padRight 25 identifier ++ " " ++ padRight 12 type ++ " " ++ last

/-- The line of a member. A line of tags has no blanks at its end. -/
def Member.line (options : Options) : Member → String
  | tagged identifier type storage validation =>
    String.ofList (trimEnd (columns identifier type (tags options storage validation)).toList)
  | commented identifier type comment => columns identifier type comment

/-! ### Members -/

/-- A template that a mapping may lack, with its values. -/
def filled (template : Option String) (slots : Slots) (field : String) :
    Except SchemaError (List String) :=
  match template with
  | none => .ok []
  | some template => (Template.fill template slots field).map ([·])

/-- What the storage has to observe about a column besides what its kind asks. -/
def columnStorage (c : Column) : List String :=
  onlyIf (c.primaryKey && (Mapping.go c.kind).storage != some "primaryKey") "primaryKey" ++
    (match c.generation with
      | .setOnCreate => ["autoCreateTime"]
      | .setOnUpdate => ["autoUpdateTime"]
      | _ => []) ++
    onlyIf (!c.nullable) "not null" ++ onlyIf c.indexed "index" ++ onlyIf c.unique "unique"

/-- How a validator is told of choices. -/
def oneOf? : Rule → Option String
  | .choice values => some ("oneof=" ++ sepBy " " values)
  | _ => none

/-- What a validator has to check about a column besides what its kind asks. -/
def columnValidation (c : Column) : List String :=
  (match c.kind, c.maxLength with
    | .char, some max => ["max=" ++ toString max.toNat]
    | _, _ => []) ++
    c.rules.filterMap oneOf? ++ onlyIf c.required "required"

def columnMember (c : Column) : Except SchemaError Member := do
  let mapping := Mapping.go c.kind
  let slots : Slots := { column := some c.column, maxLength := c.maxLength }
  let storage ← filled mapping.storage slots c.name
  let validation ← filled mapping.validation slots c.name
  let type ← Template.fill mapping.type slots c.name
  return .tagged (Identifier.go c.name) type (storage ++ columnStorage c)
    (validation ++ columnValidation c)

/-- A relation to one entity: the column that holds its key, and the relation itself. -/
def referenceMembers (kind : Kind) (name : String) (relatedModel joinColumn : Option String)
    (nullable : Bool) (onDelete : Option String) : Except SchemaError (List Member) := do
  let mapping := Mapping.go kind
  let slots : Slots := { relatedModel, joinColumn := joinColumn.map Identifier.go }
  let type ← Template.fill mapping.type slots name
  let storage ← filled mapping.storage slots name
  let column ← Template.fill Slot.joinColumn.mark slots name
  let action := onDelete.map fun action =>
    "constraint:OnDelete:" ++ action.map fun c => if c = '_' then ' ' else c
  return [
    .tagged column "uint32" ("index" :: onlyIf (kind == .oneToOne) "unique") [],
    .tagged (Identifier.go name) type (storage ++ action.toList ++ onlyIf (!nullable) "not null") []]

/-- The comment of an inverse side. -/
def backReference : String :=
  "// back-reference to " ++ Slot.relatedModel.mark ++ "." ++ Slot.peerField.mark

def manyToManyMember (r : ManyToMany) : Except SchemaError Member := do
  let mapping := Mapping.go (if r.isInverse then .manyToManyRel else .manyToMany)
  let slots : Slots :=
    { relatedModel := r.relatedModel, joinTable := r.joinTable, peerField := r.peerField.map Identifier.go }
  let type ← Template.fill mapping.type slots r.name
  if r.isInverse then
    let comment ← Template.fill backReference slots r.name
    return .commented (Identifier.go r.name) type comment
  else
    let storage ← filled mapping.storage slots r.name
    return .tagged (Identifier.go r.name) type storage []

/-- The members that an item of the class becomes. -/
def members (className : String) : Item → Traced SchemaError (List Member)
  | .column c => Traced.ofExcept ((columnMember c).map ([·]))
  | .oneToOne r =>
    if r.isInverse then do
      Traced.tell (.impliedOneToOne r.name)
      return []
    else
      Traced.ofExcept
        (referenceMembers .oneToOne r.name r.relatedModel r.joinColumn r.nullable r.onDelete)
  | .manyToOne r =>
    Traced.ofExcept
      (referenceMembers .foreignKey r.name r.relatedModel (some r.joinColumn) r.nullable r.onDelete)
  | .oneToMany r => do
    Traced.tell (.impliedOneToMany className r.name)
    return []
  | .manyToMany r => Traced.ofExcept ((manyToManyMember r).map ([·]))

/-- The struct of a class with its members, and the name of its table. -/
def declaration (options : Options) (className table : String) (members : List Member) : String :=
  "type " ++ className ++ " struct \x7b\n" ++
    concat (members.map fun m => "    " ++ m.line options ++ "\n") ++ "\x7d\n\n" ++
    "func (" ++ className ++ ") TableName() string \x7b\n" ++
    "    return \"" ++ table ++ "\"\n" ++ "\x7d\n\n"

def render (options : Options) (e : Entity) : Traced SchemaError String := do
  let members ← Traced.forEach (members e.className) e.items
  return declaration options e.className e.table members.flatten

end EntityGen.Go
