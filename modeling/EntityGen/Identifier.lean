import EntityGen.Text.Words

/-!
Identifiers made from names. Go writes every word of a name with a capital (`author_id` is
`AuthorId`); Kotlin writes the first word in lowercase (`created_at` is `createdAt`) and puts one of its
hard keywords between backticks. -/
namespace EntityGen.Identifier
open Text

/-- Every word capitalized. -/
def go (name : String) : String :=
  String.ofList ((words name.toList).flatMap capitalize)

/-- The first word in lowercase, the others capitalized. -/
def camel : List (List Char) → List Char
  | [] => []
  | first :: rest => lowercase first ++ rest.flatMap capitalize

/-- Words that Kotlin reserves everywhere. -/
def kotlinKeywords : List String :=
  ["as", "break", "class", "continue", "do", "else", "false", "for", "fun", "if", "in", "interface",
   "is", "null", "object", "package", "return", "super", "this", "throw", "true", "try", "typealias",
   "typeof", "val", "var", "when", "while"]

/-- A keyword becomes an identifier between backticks; any other word is one. -/
def quoteKeyword (word : String) : String :=
  if word ∈ kotlinKeywords then "`" ++ word ++ "`" else word

def kotlin (name : String) : String :=
  quoteKeyword (String.ofList (camel (words name.toList)))

end EntityGen.Identifier
