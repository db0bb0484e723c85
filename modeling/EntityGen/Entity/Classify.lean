import EntityGen.Entity
import EntityGen.Manifest.Basic
import EntityGen.SchemaError

/-!
What a field's description says about its values: the kind, the value kind, how values come about and
what they have to observe. -/
namespace EntityGen.Field

/-- The declared kind, if the catalogue has it. -/
def kind? (field : Field) : Option Kind := Kind.ofName? field.kind

def requireKind (field : Field) : Except SchemaError Kind :=
  match field.kind? with
  | some kind => .ok kind
  | none => .error (.unrecognizedKind field.name field.kind)

/-- What the field's values are. A relation has none. -/
def requireValueKind (field : Field) : Except SchemaError ValueKind :=
  match field.requireKind with
  | .error e => .error e
  | .ok kind =>
    match kind.valueKind? with
    | some value => .ok value
    | none => .error (.unmappedValueKind field.name kind)

/-- How values come about. A date and time that is set on every save is not also set on the first. -/
def generation (field : Field) : Generation :=
  match field.kind? with
  | some .uuid => .uuid
  | some .dateTime =>
    if field.autoNow then .setOnUpdate else if field.autoNowAdd then .setOnCreate else .none
  | some kind => if kind.isAuto then .autoIncrement else .none
  | none => .none

/-- What a kind asks of its values. -/
def kindRules (kind : Kind) : List Rule :=
  match kind with
  | .email => [.email]
  | .url => [.url]
  | .genericIpAddress | .ipAddress => [.ip]
  | kind => if kind.isPositive then [.atLeast 0] else []

/-- What values have to observe: what their kind asks, and then to be among the choices if there are
any. -/
def rules (field : Field) : List Rule :=
  (match field.kind? with
    | some kind => kindRules kind
    | none => []) ++
  (if field.choices.isEmpty then [] else [.choice field.choices])

end EntityGen.Field
