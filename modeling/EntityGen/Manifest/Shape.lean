import EntityGen.Json.Basic
import EntityGen.Manifest.Basic
import EntityGen.Record

/-!
The written form of manifests: which attributes their records have, under which keys, in which order,
and which may be left out. `Manifest.toJson` writes every attribute. -/
namespace EntityGen

section
variable {ν ε : Type} (reader : Reader ν ε)

namespace Field

def shape : Shape ν ε Field :=
  let flag (key : String) (set : Bool → Field → Field) : Attribute ν ε Field :=
    .of key .defaulted reader.flag set
  let label (key : String) (set : Option String → Field → Field) : Attribute ν ε Field :=
    .of key .optional (reader.optional reader.text) set
  { title := "FieldDescriptor"
    blank := {}
    attributes :=
      [.of "name" .required reader.text fun v f => { f with name := v },
       .of "kind" .required reader.text fun v f => { f with kind := v },
       flag "null" fun v f => { f with null := v },
       flag "blank" fun v f => { f with blank := v },
       flag "primary_key" fun v f => { f with primaryKey := v },
       flag "unique" fun v f => { f with unique := v },
       flag "db_index" fun v f => { f with dbIndex := v },
       label "column" fun v f => { f with column := v },
       .of "max_length" .optional (reader.optional reader.count) fun v f => { f with maxLength := v },
       .of "choices" .defaulted (reader.list reader.text) fun v f => { f with choices := v },
       flag "auto_now" fun v f => { f with autoNow := v },
       flag "auto_now_add" fun v f => { f with autoNowAdd := v },
       flag "is_relation" fun v f => { f with isRelation := v },
       flag "one_to_one" fun v f => { f with oneToOne := v },
       flag "many_to_one" fun v f => { f with manyToOne := v },
       flag "one_to_many" fun v f => { f with oneToMany := v },
       flag "many_to_many" fun v f => { f with manyToMany := v },
       flag "is_reverse" fun v f => { f with isReverse := v },
       label "related_model" fun v f => { f with relatedModel := v },
       label "attname" fun v f => { f with attname := v },
       label "accessor_name" fun v f => { f with accessorName := v },
       label "peer_field" fun v f => { f with peerField := v },
       label "m2m_db_table" fun v f => { f with joinTable := v },
       label "m2m_column_name" fun v f => { f with joinColumn := v },
       label "m2m_reverse_name" fun v f => { f with peerJoinColumn := v },
       label "on_delete" fun v f => { f with onDelete := v }] }

end Field

def Model.shape : Shape ν ε Model where
  title := "ModelDescriptor"
  blank := {}
  attributes :=
    [.of "name" .required reader.text fun v m => { m with name := v },
     .of "db_table" .required reader.text fun v m => { m with table := v },
     .of "fields" .defaulted (reader.list (reader.record (Field.shape reader)))
       fun v m => { m with fields := v }]

def App.shape : Shape ν ε App where
  title := "AppDescriptor"
  blank := {}
  attributes :=
    [.of "label" .required reader.text fun v a => { a with label := v },
     .of "models" .defaulted (reader.list (reader.record (Model.shape reader)))
       fun v a => { a with models := v }]

def Manifest.shape : Shape ν ε Manifest where
  title := "Manifest"
  blank := {}
  attributes :=
    [.of "apps" .defaulted (reader.list (reader.record (App.shape reader)))
       fun v m => { m with apps := v }]

end

/-! ### Writing -/

def Field.toJson (f : Field) : Json :=
  let text := Json.ofOption Json.ofString
  .ofMembers
    [("name", .ofString f.name), ("kind", .ofString f.kind), ("null", .bool f.null),
     ("blank", .bool f.blank), ("primary_key", .bool f.primaryKey), ("unique", .bool f.unique),
     ("db_index", .bool f.dbIndex), ("column", text f.column),
     ("max_length", .ofOption (fun n => .ofNat n.toNat) f.maxLength),
     ("choices", .ofList (f.choices.map .ofString)), ("auto_now", .bool f.autoNow),
     ("auto_now_add", .bool f.autoNowAdd), ("is_relation", .bool f.isRelation),
     ("one_to_one", .bool f.oneToOne), ("many_to_one", .bool f.manyToOne),
     ("one_to_many", .bool f.oneToMany), ("many_to_many", .bool f.manyToMany),
     ("is_reverse", .bool f.isReverse), ("related_model", text f.relatedModel),
     ("attname", text f.attname), ("accessor_name", text f.accessorName),
     ("peer_field", text f.peerField), ("m2m_db_table", text f.joinTable),
     ("m2m_column_name", text f.joinColumn), ("m2m_reverse_name", text f.peerJoinColumn),
     ("on_delete", text f.onDelete)]

def Model.toJson (m : Model) : Json :=
  .ofMembers
    [("name", .ofString m.name), ("db_table", .ofString m.table),
     ("fields", .ofList (m.fields.map Field.toJson))]

def App.toJson (a : App) : Json :=
  .ofMembers [("label", .ofString a.label), ("models", .ofList (a.models.map Model.toJson))]

def Manifest.toJson (m : Manifest) : Json :=
  .ofMembers [("apps", .ofList (m.apps.map App.toJson))]

end EntityGen
