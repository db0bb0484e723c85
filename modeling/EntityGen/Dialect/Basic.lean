/-!
The languages that declarations are written in, and the names they go by. -/
namespace EntityGen

inductive Dialect where
  /-- Go structs with GORM tags. -/
  | go
  /-- Kotlin classes with JPA annotations. -/
  | kotlin
  deriving DecidableEq, Repr

namespace Dialect

/-- Every dialect, in the order in which texts are delivered. -/
def all : List Dialect := [go, kotlin]

theorem mem_all (dialect : Dialect) : dialect ∈ all := by cases dialect <;> decide

def name : Dialect → String
  | go => "go"
  | kotlin => "kotlin"

/-- What the dialect's declarations are for. -/
def backend : Dialect → String
  | go => "gorm"
  | kotlin => "kotlin"

/-- The extension of files in the dialect. -/
def extension : Dialect → String
  | go => "go"
  | kotlin => "kt"

/-- Every name of a dialect, in lowercase. -/
def aliases : List (String × Dialect) :=
  [("go", go), ("gorm", go), ("golang", go), ("kotlin", kotlin), ("kt", kotlin), ("java", kotlin),
   ("jpa", kotlin)]

/-- The dialect that goes by exactly that name. -/
def ofAlias? (name : String) : Option Dialect := aliases.lookup name

/-- The dialect that goes by that name, whatever the case of its ASCII letters. -/
def ofName? (name : String) : Option Dialect :=
  ofAlias? (String.ofList (name.toList.map Char.toLower))

@[simp] theorem ofAlias?_name (dialect : Dialect) : ofAlias? dialect.name = some dialect := by
  cases dialect <;> rfl

@[simp] theorem ofName?_name (dialect : Dialect) : ofName? dialect.name = some dialect := by
  cases dialect <;> decide +kernel

end Dialect

end EntityGen
