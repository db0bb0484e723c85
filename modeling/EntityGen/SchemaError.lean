import EntityGen.Kind.Basic

/-!
What can be wrong with one field of a model. Each cause names the field it is found at. -/
namespace EntityGen

inductive SchemaError where
  /-- The catalogue has no kind of that name. -/
  | unrecognizedKind (field kind : String)
  /-- A relation where a stored value is asked for. -/
  | unmappedValueKind (field : String) (kind : Kind)
  /-- A relation that matches no relation shape, or several. -/
  | ambiguousShape (field : String) (shapes : Nat)
  /-- A template asks for a value that the field does not have. -/
  | unresolvedSlot (field slot template : String)
  deriving DecidableEq, Repr

namespace SchemaError

/-- The field that the error is found at. -/
def field : SchemaError → String
  | unrecognizedKind field _ => field
  | unmappedValueKind field _ => field
  | ambiguousShape field _ => field
  | unresolvedSlot field _ _ => field

def message : SchemaError → String
  | unrecognizedKind field kind => "field `" ++ field ++ "` has unrecognized kind `" ++ kind ++ "`"
  | unmappedValueKind field kind => "field `" ++ field ++ "` of kind " ++ kind.name ++ " has no value kind"
  | ambiguousShape field shapes =>
    "relation `" ++ field ++ "` matches " ++ toString shapes ++
      " relation shapes, expected exactly one"
  | unresolvedSlot field slot template =>
    "cannot resolve `\x7b" ++ slot ++ "\x7d` for field `" ++ field ++ "` in template `" ++ template ++ "`"

end SchemaError

end EntityGen
