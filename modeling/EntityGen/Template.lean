import EntityGen.SchemaError
import EntityGen.Text.Join

/-!
Templates: texts with named slots between braces. A template is cut into literal characters and slots
in one pass from the left; an opening brace that is never closed stands for itself, with all that
follows it. `fill` writes the values into the slots. A value is never read again, so a brace in a value
is only a character. -/
namespace EntityGen

/-- The slots that have a meaning. -/
inductive Slot where
  | relatedModel | joinColumn | joinTable | column | peerField | maxLength
  deriving DecidableEq, Repr

namespace Slot

def name : Slot → String
  | relatedModel => "related_model"
  | joinColumn => "join_column"
  | joinTable => "join_table"
  | column => "column"
  | peerField => "peer_field"
  | maxLength => "max_length"

def all : List Slot := [relatedModel, joinColumn, joinTable, column, peerField, maxLength]

theorem mem_all (slot : Slot) : slot ∈ all := by cases slot <;> decide

def ofName? (name : String) : Option Slot := all.find? (·.name == name)

@[simp] theorem ofName?_name (slot : Slot) : ofName? slot.name = some slot := by
  cases slot <;> rfl

/-- The slot as a template holds it. -/
def mark (slot : Slot) : String := "\x7b" ++ slot.name ++ "\x7d"

end Slot

/-- The values at hand for the slots of a template. -/
structure Slots where
  relatedModel : Option String := none
  joinColumn : Option String := none
  joinTable : Option String := none
  column : Option String := none
  peerField : Option String := none
  maxLength : Option UInt32 := none
  deriving DecidableEq, Repr

namespace Slots

def value? (slots : Slots) : Slot → Option String
  | .relatedModel => slots.relatedModel
  | .joinColumn => slots.joinColumn
  | .joinTable => slots.joinTable
  | .column => slots.column
  | .peerField => slots.peerField
  | .maxLength => slots.maxLength.map fun n => toString n.toNat

/-- The value for a name between braces. -/
def get? (slots : Slots) (name : String) : Option String :=
  (Slot.ofName? name).bind slots.value?

@[simp] theorem get?_name (slots : Slots) (slot : Slot) :
    slots.get? slot.name = slots.value? slot := by
  simp [get?]

end Slots

namespace Template

/-- A part of a template. -/
inductive Piece where
  | literal (c : Char)
  | slot (name : String)
  deriving DecidableEq, Repr

/-- The pieces of the rest of a template. `under?` is the name of the slot under way, last character
first, or nothing outside braces. -/
def piecesFrom (under? : Option (List Char)) : List Char → List Piece
  | [] =>
    match under? with
    | none => []
    | some name => .literal '\x7b' :: name.reverse.map .literal
  | c :: rest =>
    match under? with
    | none => if c = '\x7b' then piecesFrom (some []) rest else .literal c :: piecesFrom none rest
    | some name =>
      if c = '\x7d' then .slot (String.ofList name.reverse) :: piecesFrom none rest
      else piecesFrom (some (c :: name)) rest

def pieces (template : String) : List Piece := piecesFrom none template.toList

/-- The text that a piece becomes; the name of the slot if it has no value. -/
def Piece.resolve (slots : Slots) : Piece → Except String String
  | .literal c => .ok (String.singleton c)
  | .slot name =>
    match slots.get? name with
    | some value => .ok value
    | none => .error name

/-- The texts of pieces, one after the other; the leftmost slot without a value if there is one. -/
def fillPieces (slots : Slots) : List Piece → Except String String
  | [] => .ok ""
  | piece :: rest =>
    match piece.resolve slots with
    | .error name => .error name
    | .ok text => (fillPieces slots rest).map (text ++ ·)

/-- A template with the values of its slots. `field` is who asks for it. -/
def fill (template : String) (slots : Slots) (field : String) : Except SchemaError String :=
  match fillPieces slots (pieces template) with
  | .ok text => .ok text
  | .error name => .error (.unresolvedSlot field name template)

end Template

end EntityGen
