/-!
What a stored value is, apart from any database or language. -/
namespace EntityGen

inductive ValueKind where
  | short | int | long | float | double | boolean | string | byteArray
  | localDate | localDateTime | localTime | json
  deriving DecidableEq, Repr

namespace ValueKind

def name : ValueKind → String
  | short => "Short"
  | int => "Int"
  | long => "Long"
  | float => "Float"
  | double => "Double"
  | boolean => "Boolean"
  | string => "String"
  | byteArray => "ByteArray"
  | localDate => "LocalDate"
  | localDateTime => "LocalDateTime"
  | localTime => "LocalTime"
  | json => "Json"

/-- The Kotlin type of such a value: the type of that name, but a map for a document. -/
def kotlinType : ValueKind → String
  | json => "Map<String, Any>"
  | other => other.name

end ValueKind

end EntityGen
