import EntityGen.Dialect.Basic
import EntityGen.Template

/-!
What each dialect writes for each kind, as templates: the type, what the storage has to observe, and
what a validator has to check. -/
namespace EntityGen

structure Mapping where
  type : String
  storage : Option String := none
  validation : Option String := none
  deriving DecidableEq, Repr

namespace Mapping

/-- An integer that may not be negative. -/
def unsignedInteger (type : String) : Mapping where
  type
  storage := some ("check:" ++ Slot.column.mark ++ ">=0")
  validation := some "numeric,gte=0"

/-- A single related entity, joined over a column of this one. -/
def reference : Mapping where
  type := Slot.relatedModel.mark
  storage := some ("foreignKey:" ++ Slot.joinColumn.mark)

def go : Kind → Mapping
  | .auto => ⟨"uint32", some "primaryKey", none⟩
  | .bigAuto => ⟨"uint64", some "primaryKey", none⟩
  | .smallAuto => ⟨"uint16", some "primaryKey", none⟩
  | .uuid => ⟨"uuid.UUID", some "type:uuid;default:uuid_generate_v4()", none⟩
  | .boolean | .nullBoolean => ⟨"bool", none, none⟩
  | .smallInteger => ⟨"int16", none, some "numeric"⟩
  | .integer => ⟨"int32", none, some "numeric"⟩
  | .bigInteger => ⟨"int64", none, some "numeric"⟩
  | .positiveSmallInteger => unsignedInteger "uint16"
  | .positiveInteger => unsignedInteger "uint32"
  | .positiveBigInteger => unsignedInteger "uint64"
  | .float | .decimal => ⟨"float64", none, none⟩
  | .char => ⟨"string", some ("type:varchar(" ++ Slot.maxLength.mark ++ ")"), none⟩
  | .text | .image | .commaSeparatedInteger => ⟨"string", none, none⟩
  | .slug => ⟨"string", some "type:varchar(50)", none⟩
  | .email => ⟨"string", some "type:varchar(254)", some "email"⟩
  | .url => ⟨"string", some "type:varchar(100)", some "url"⟩
  | .file | .filePath => ⟨"string", some "type:varchar(100)", none⟩
  | .genericIpAddress | .ipAddress => ⟨"string", none, some "ip"⟩
  | .date => ⟨"datatypes.Date", none, none⟩
  | .dateTime | .time => ⟨"time.Time", none, none⟩
  | .duration => ⟨"time.Duration", none, none⟩
  | .binary => ⟨"[]byte", none, none⟩
  | .json => ⟨"datatypes.JSON", none, none⟩
  | .foreignKey | .manyToOneRel | .oneToOne | .oneToOneRel => reference
  | .manyToMany | .manyToManyRel =>
    ⟨"[]*" ++ Slot.relatedModel.mark, some ("many2many:" ++ Slot.joinTable.mark), none⟩

/-- A stored value has the type of its value kind; relations to many entities are lists. -/
def kotlin (kind : Kind) : Mapping :=
  match kind.valueKind?, kind with
  | some value, _ => ⟨value.kotlinType, none, none⟩
  | none, .manyToMany => ⟨"List<" ++ Slot.relatedModel.mark ++ ">", none, none⟩
  | none, .manyToManyRel => ⟨"List<" ++ Slot.relatedModel.mark ++ ">", none, none⟩
  | none, .manyToOneRel => ⟨"List<" ++ Slot.relatedModel.mark ++ ">", none, none⟩
  | none, _ => ⟨Slot.relatedModel.mark, none, none⟩

end Mapping

/-- What `dialect` writes for `kind`. -/
def Dialect.mapping : Dialect → Kind → Mapping
  | .go => Mapping.go
  | .kotlin => Mapping.kotlin

end EntityGen
