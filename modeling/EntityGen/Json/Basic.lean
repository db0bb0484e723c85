import EntityGen.Json.Literal
import EntityGen.Json.Numeral

/-!
JSON documents, whole or broken. A document is read from the left and faults are told in the order of
the text, so what stands before a fault has to be kept with it: a text that breaks off is a tree in
which a value is `broken`, or an array or object has an `ending` other than its bracket. What a break
amounts to can depend on whether the value around it is wanted or skipped (`Break.whenRead`,
`Break.whenSkipped`). -/
namespace EntityGen

namespace Json

/-- Where a text stops being JSON. -/
inductive Break where
  /-- The text ends too early. -/
  | ended
  /-- The text ends inside a number. -/
  | cutNumber
  /-- The text ends inside quotes, after these code points. -/
  | cutText (read : Literal)
  /-- A character that cannot stand there. -/
  | malformed
  deriving DecidableEq, Repr

/-- What a fault of the text comes to. -/
inductive Defect where
  | ended
  | malformed
  deriving DecidableEq, Repr

/-- A break in a value that is wanted. A text that is lost already is malformed before it ends. -/
def Break.whenRead : Break → Defect
  | ended => .ended
  | cutNumber => .ended
  | cutText read => if read.isLost then .malformed else .ended
  | malformed => .malformed

/-- A break in a value that is skipped. -/
def Break.whenSkipped : Break → Defect
  | ended => .ended
  | cutNumber => .malformed
  | cutText _ => .ended
  | malformed => .malformed

end Json

/-- A JSON value as far as the text goes. -/
inductive Json where
  | null
  | bool (b : Bool)
  | number (n : Json.Numeral)
  | string (literal : Json.Literal)
  | array (items : List Json) (ending : Option Json.Break)
  | object (members : List (Json.Literal × Json)) (ending : Option Json.Break)
  | broken (b : Json.Break)
  deriving Repr

namespace Json

def ofString (s : String) : Json := .string (Literal.ofString s)

def ofNat (n : Nat) : Json := .number (Numeral.ofNat n)

/-- A complete array. -/
def ofList (items : List Json) : Json := .array items none

/-- A complete object. -/
def ofMembers (members : List (String × Json)) : Json :=
  .object (members.map fun (key, value) => (Literal.ofString key, value)) none

def ofOption {α : Type} (write : α → Json) : Option α → Json
  | none => .null
  | some a => write a

mutual

/-- The first break of a value that is skipped. -/
def skipped : Json → Option Defect
  | null | bool _ | number _ | string _ => none
  | array items ending => (skippedItems items).or (ending.map Break.whenSkipped)
  | object members ending => (skippedMembers members).or (ending.map Break.whenSkipped)
  | broken b => some b.whenSkipped

def skippedItems : List Json → Option Defect
  | [] => none
  | item :: rest => item.skipped.or (skippedItems rest)

def skippedMembers : List (Literal × Json) → Option Defect
  | [] => none
  | (_, value) :: rest => value.skipped.or (skippedMembers rest)

end

end Json

end EntityGen
