import EntityGen.Record
import EntityGen.Yaml.Node

/-!
YAML nodes read as texts, flags, counts, lists and records. Any scalar is a text as it stands; what a
plain scalar means besides is settled by how it is spelled. A record is a mapping, and nothing at all is
an empty record and an empty list. -/
namespace EntityGen.Yaml

/-- Why a text is not the value asked for. -/
inductive Fault where
  /-- The text is not one YAML document. -/
  | malformed
  /-- A node of another kind than `expected`. -/
  | mismatch (expected : String)
  | missing (key : String)
  | repeated (key : String)
  deriving DecidableEq, Repr

def Fault.message : Fault → String
  | malformed => "malformed document"
  | mismatch expected => "invalid type, expected " ++ expected
  | missing key => "missing field `" ++ key ++ "`"
  | repeated key => "duplicate field `" ++ key ++ "`"

/-! ### Spellings -/

def isNullWord (s : String) : Bool := s == "~" || s == "null" || s == "Null" || s == "NULL"

def flag? (s : String) : Option Bool :=
  if s == "true" || s == "True" || s == "TRUE" then some true
  else if s == "false" || s == "False" || s == "FALSE" then some false
  else none

/-- The value of a digit in bases up to sixteen. -/
def digit? (base : Nat) (c : Char) : Option Nat :=
  (hexDigit? c).filter (· < base)

/-- At least one digit, and digits only. -/
def digits? (base : Nat) (cs : List Char) : Option Nat :=
  if cs.isEmpty then none else cs.foldlM (fun n c => (digit? base c).map (n * base + ·)) 0

/-- Decimal digits do not start with a zero unless it is the only one. -/
def decimal? (cs : List Char) : Option Nat :=
  match cs with
  | '0' :: _ :: _ => none
  | cs => digits? 10 cs

/-- A natural number, with a base mark and a plus sign allowed before it. -/
def natural? (s : String) : Option Nat :=
  let cs := match s.toList with
    | '+' :: rest => rest
    | cs => cs
  match cs with
  | '0' :: 'x' :: rest => digits? 16 rest
  | '0' :: 'o' :: rest => digits? 8 rest
  | '0' :: 'b' :: rest => digits? 2 rest
  | cs => decimal? cs

/-! ### Nodes -/

/-- Nodes by their numbers; of two with the same number the later one. -/
abbrev Anchors := List (Nat × Node)

namespace Node
variable (anchors : Anchors)

/-- The node that a node stands for. No alias stands for an alias. -/
def resolve : Node → Node
  | reference n => (anchors.reverse.lookup n).getD empty
  | other => other

/-- A scalar whose spelling may mean `tag`: a plain one, or a literal block that is tagged so. -/
def spelling? (expected : String) : Node → Option String
  | scalar _ _ .plain text => some text
  | scalar _ (some tag) .literal text => if tag == expected then some text else none
  | _ => none

/-- Nothing at all. -/
def isVoid : Node → Bool
  | scalar _ _ .plain text => text.isEmpty
  | _ => false

def readText (node : Node) : Except Fault String :=
  match node.resolve anchors with
  | scalar _ _ _ text => .ok text
  | _ => .error (.mismatch "a string")

def readFlag (node : Node) : Except Fault Bool :=
  match ((node.resolve anchors).spelling? "tag:yaml.org,2002:bool").bind flag? with
  | some b => .ok b
  | none => .error (.mismatch "a boolean")

def readCount (node : Node) : Except Fault UInt32 :=
  match ((node.resolve anchors).spelling? "tag:yaml.org,2002:int").bind natural? with
  | some n => if n < 0x100000000 then .ok n.toUInt32 else .error (.mismatch "u32")
  | none => .error (.mismatch "u32")

/-- Whether a node is null. A tag says so, and then it must be spelled so. -/
def readNull (node : Node) : Except Fault Bool :=
  match node.resolve anchors with
  | scalar _ none .plain text => .ok (text.isEmpty || isNullWord text)
  | scalar _ (some tag) .plain text =>
    if tag == "tag:yaml.org,2002:null" then
      if isNullWord text then .ok true else .error (.mismatch "null")
    else .ok false
  | _ => .ok false

def readList {α : Type} (read : Node → Except Fault α) (node : Node) : Except Fault (List α) :=
  match node.resolve anchors with
  | sequence _ items => items.mapM read
  | other => if other.isVoid then .ok [] else .error (.mismatch "a sequence")

section
variable {ρ : Type} (shape : Shape Node Fault ρ)

/-- The pairs of a mapping, put into a record one after the other. -/
def readPairs : List (Node × Node) → Shape.Draft ρ → Except Fault (Shape.Draft ρ)
  | [], under => .ok under
  | (key, value) :: rest, under => do
    let key ← readText anchors key
    readPairs rest (← shape.put .repeated (fun _ => .ok ()) key value under)

def readRecord (node : Node) : Except Fault ρ := do
  let pairs ← match node.resolve anchors with
    | mapping _ pairs => .ok pairs
    | other => if other.isVoid then .ok [] else .error (.mismatch ("struct " ++ shape.title))
  let under ← readPairs anchors shape pairs ⟨shape.blank, []⟩
  match shape.missing? under.given with
  | some key => throw (.missing key)
  | none => return under.record

end

end Node

/-- How YAML nodes are read. -/
def reader (anchors : Anchors) : Reader Node Fault where
  text := Node.readText anchors
  flag := Node.readFlag anchors
  count := Node.readCount anchors
  isNull := Node.readNull anchors
  list := Node.readList anchors
  record := Node.readRecord anchors

/-- The node that a whole text holds. -/
def parse? (text : String) : Option Node := (tokens text.toList).bind document

/-- A whole text read as one value. -/
def readDocument {α : Type} (read : Reader Node Fault → Node → Except Fault α) (text : String) :
    Except Fault α :=
  match parse? text with
  | some node => read (reader node.anchored) node
  | none => .error .malformed

end EntityGen.Yaml
