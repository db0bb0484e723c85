import EntityGen.Decimal.Shortest
import EntityGen.Json.Parser
import EntityGen.Record
import EntityGen.Text.Quoted

/-!
JSON values read as texts, flags, counts, lists and records. The first fault in the order of the text is
told: a value of the wrong kind before any break after it, and a break before any value after it. A
record is an object, or an array of its attributes in order. -/
namespace EntityGen.Json

/-- What is asked for. -/
inductive Expected where
  | text
  | flag
  | count
  | list
  | record (title : String)
  deriving DecidableEq, Repr

def Expected.message : Expected → String
  | text => "a string"
  | flag => "a boolean"
  | count => "u32"
  | list => "a sequence"
  | record title => "struct " ++ title

/-- What is there instead. -/
inductive Found where
  | null
  | flag (b : Bool)
  | integer (n : Int)
  | float (x : Float)
  | text (s : String)
  | list
  | record
  deriving Repr

def Found.message : Found → String
  | null => "null"
  | flag b => "boolean `" ++ toString b ++ "`"
  | integer n => "integer `" ++ toString n ++ "`"
  | float x => "floating point `" ++ Decimal.text x ++ "`"
  | text s => "string " ++ Text.quoted s
  | list => "sequence"
  | record => "map"

/-- Why a text is not the value asked for. -/
inductive Fault where
  /-- The text is not JSON. -/
  | defect (d : Defect)
  | wrongKind (found : Found) (expected : Expected)
  /-- An integer that is no count. -/
  | outOfRange (n : Int)
  | missing (key : String)
  | repeated (key : String)
  /-- A record given by position that lacks an attribute after the first `count`. -/
  | tooShort (count : Nat) (title : String) (size : Nat)
  /-- A record given by `count` values, which are more than it has attributes. -/
  | tooLong (count : Nat)
  deriving Repr

/-- The kinds of faults that are told apart. -/
inductive Category where
  | malformed
  | ended
  | data
  deriving DecidableEq, Repr

namespace Fault

/-- Too many values are a fault of the text: its bracket should have been closed before. -/
def category : Fault → Category
  | defect .ended => .ended
  | defect .malformed => .malformed
  | tooLong _ => .malformed
  | _ => .data

def message : Fault → String
  | defect .ended => "unexpected end of text"
  | defect .malformed => "malformed text"
  | wrongKind found expected =>
    "invalid type: " ++ found.message ++ ", expected " ++ expected.message
  | outOfRange n => "invalid value: integer `" ++ toString n ++ "`, expected " ++ Expected.count.message
  | missing key => "missing field `" ++ key ++ "`"
  | repeated key => "duplicate field `" ++ key ++ "`"
  | tooShort count title size =>
    "invalid length " ++ toString count ++ ", expected " ++ (Expected.record title).message ++ " with " ++
      toString size ++ " element" ++ (if size = 1 then "" else "s")
  | tooLong count => "invalid length " ++ toString count ++ ", expected fewer elements in array"

end Fault

/-- A break in a value that is wanted. -/
def raise {α : Type} (b : Break) : Except Fault α := .error (.defect b.whenRead)

/-- The end of an array or object: its bracket or a break. -/
def close : Option Break → Except Fault Unit
  | none => .ok ()
  | some b => raise b

/-- The text of a literal that is wanted. -/
def readLiteral (literal : Literal) : Except Fault String :=
  match literal.text? with
  | some s => .ok s
  | none => .error (.defect .malformed)

/-- The number of a numeral that is wanted. -/
def readNumeral (n : Numeral) : Except Fault Number :=
  match n.value? with
  | some x => .ok x
  | none => .error (.defect .malformed)

/-- The fault of a value that is not of the kind asked for. -/
def mismatch {α : Type} (expected : Expected) (found : Found) : Except Fault α :=
  .error (.wrongKind found expected)

/-- A value that is not of the kind asked for: what there is instead is read first, and may be
flawed itself. -/
def refuse {α : Type} (expected : Expected) : Json → Except Fault α
  | .null => mismatch expected .null
  | .bool b => mismatch expected (.flag b)
  | .number n => do
    match ← readNumeral n with
    | .integer n => mismatch expected (.integer n)
    | .float x => mismatch expected (.float x)
  | .string literal => do mismatch expected (.text (← readLiteral literal))
  | .array .. => mismatch expected .list
  | .object .. => mismatch expected .record
  | .broken b => raise b

def readText : Json → Except Fault String
  | .string literal => readLiteral literal
  | other => refuse .text other

def readFlag : Json → Except Fault Bool
  | .bool b => .ok b
  | other => refuse .flag other

def readCount : Json → Except Fault UInt32
  | .number n => do
    match ← readNumeral n with
    | .integer n => if 0 ≤ n ∧ n < 0x100000000 then return n.toNat.toUInt32 else throw (.outOfRange n)
    | .float x => mismatch .count (.float x)
  | other => refuse .count other

def readNull : Json → Except Fault Bool
  | .null => .ok true
  | _ => .ok false

def readList {α : Type} (read : Json → Except Fault α) : Json → Except Fault (List α)
  | .array items ending => do
    let values ← items.mapM read
    close ending
    return values
  | other => refuse .list other

/-- A value under a key that is not asked for need only be JSON. -/
def skip (value : Json) : Except Fault Unit :=
  match value.skipped with
  | none => .ok ()
  | some d => .error (.defect d)

section
variable {ρ : Type} (shape : Shape Json Fault ρ)

/-- The members of an object, put into a record one after the other. -/
def readMembers : List (Literal × Json) → Shape.Draft ρ → Except Fault (Shape.Draft ρ)
  | [], under => .ok under
  | (key, value) :: rest, under => do
    let key ← readLiteral key
    readMembers rest (← shape.put .repeated skip key value under)

def readObject (members : List (Literal × Json)) (ending : Option Break) : Except Fault ρ := do
  let under ← readMembers shape members ⟨shape.blank, []⟩
  close ending
  match shape.missing? under.given with
  | some key => throw (.missing key)
  | none => return under.record

/-- The items of an array as the attributes of a record in order. Only attributes with a default may
be left out, and nothing may follow the last. -/
def readPositional (items : List Json) (ending : Option Break) : Except Fault ρ := do
  let (record, attributes, rest) ← Shape.place shape.attributes items shape.blank
  if !rest.isEmpty then throw (.tooLong items.length)
  close ending
  match attributes.findIdx? (·.presence != .defaulted) with
  | some i => throw (.tooShort (items.length + i) shape.title shape.attributes.length)
  | none => return record

def readRecord : Json → Except Fault ρ
  | .object members ending => readObject shape members ending
  | .array items ending => readPositional shape items ending
  | other => refuse (.record shape.title) other

end

/-- How JSON values are read. -/
def reader : Reader Json Fault where
  text := readText
  flag := readFlag
  count := readCount
  isNull := readNull
  list := readList
  record := readRecord

/-- A whole text read as one value. What follows the value is looked at last. -/
def readDocument {α : Type} (read : Json → Except Fault α) (text : String) : Except Fault α := do
  let document := parse text
  let a ← read document.root
  if document.trailing then throw (.defect .malformed) else return a

end EntityGen.Json
