import EntityGen.Record
import EntityGen.Toml.Parser

/-!
TOML values read as texts, flags, lists and records. A record is a table, or an array of its attributes
in order, of which any may be left out at the end. -/
namespace EntityGen.Toml

/-- Why a text is not the value asked for. -/
inductive Fault where
  /-- The text is not TOML. -/
  | malformed
  /-- A value of another kind than `expected`. -/
  | mismatch (expected : String)
  | missing (key : String)
  deriving DecidableEq, Repr

def readText : Toml → Except Fault String
  | .text s => .ok s
  | _ => .error (.mismatch "a string")

def readFlag : Toml → Except Fault Bool
  | .flag b => .ok b
  | _ => .error (.mismatch "a boolean")

def readCount : Toml → Except Fault UInt32
  | .integer n => if 0 ≤ n ∧ n < 0x100000000 then .ok n.toNat.toUInt32 else .error (.mismatch "u32")
  | _ => .error (.mismatch "u32")

def readList {α : Type} (read : Toml → Except Fault α) : Toml → Except Fault (List α)
  | .array items | .tables items => items.mapM read
  | _ => .error (.mismatch "a sequence")

section
variable {ρ : Type} (shape : Shape Toml Fault ρ)

/-- The entries of a table, put into a record one after the other. No key of a table comes twice. -/
def readEntries : List (String × Toml) → Shape.Draft ρ → Except Fault (Shape.Draft ρ)
  | [], under => .ok under
  | (key, value) :: rest, under => do
    readEntries rest (← shape.put (fun _ => .malformed) (fun _ => .ok ()) key value under)

def readTable (entries : List (String × Toml)) : Except Fault ρ := do
  let under ← readEntries shape entries ⟨shape.blank, []⟩
  match shape.missing? under.given with
  | some key => throw (.missing key)
  | none => return under.record

def readPositional (items : List Toml) : Except Fault ρ := do
  let (record, rest, _) ← Shape.place shape.attributes items shape.blank
  match rest.find? (·.presence == .required) with
  | some wanted => throw (.missing wanted.key)
  | none => return record

/-- A date or time is a table of its own kind, with no attribute of any record. -/
def readRecord : Toml → Except Fault ρ
  | .table _ entries => readTable shape entries
  | .array items | .tables items => readPositional shape items
  | .datetime => readTable shape []
  | _ => .error (.mismatch ("struct " ++ shape.title))

end

/-- How TOML values are read. There is no null. -/
def reader : Reader Toml Fault where
  text := readText
  flag := readFlag
  count := readCount
  isNull := fun _ => .ok false
  list := readList
  record := readRecord

/-- A whole text read as one value. -/
def readDocument {α : Type} (read : Toml → Except Fault α) (text : String) : Except Fault α :=
  match parse? text with
  | some t => read t
  | none => .error .malformed

end EntityGen.Toml
