/-!
Records and how they are read, apart from any format. A `Shape` lists the attributes that a record of
one kind has, each with the way to read it and to put it into the record. A `Reader` is what a format
offers: how its values are read as texts, flags, counts, lists and records. A shape is given once and
read through every reader. -/
namespace EntityGen

/-- Whether a record has to have an attribute. -/
inductive Presence where
  | required
  /-- May be left out or be null. -/
  | optional
  /-- May be left out, but is not null. -/
  | defaulted
  deriving DecidableEq, Repr

/-- One attribute of records `ρ`, read from values `ν` with failures `ε`. -/
structure Attribute (ν ε ρ : Type) where
  key : String
  presence : Presence
  /-- Reads a value and tells how to put it into a record. -/
  read : ν → Except ε (ρ → ρ)

structure Shape (ν ε ρ : Type) where
  /-- What a record of this shape is called. -/
  title : String
  attributes : List (Attribute ν ε ρ)
  /-- The record before any attribute is put in. -/
  blank : ρ

namespace Shape
variable {ν ε ρ : Type}

def attribute? (shape : Shape ν ε ρ) (key : String) : Option (Attribute ν ε ρ) :=
  shape.attributes.find? (·.key == key)

/-- The first required attribute that is not among the keys given. -/
def missing? (shape : Shape ν ε ρ) (given : List String) : Option String :=
  (shape.attributes.find? fun a => a.presence == .required && !given.contains a.key).map (·.key)

/-- A record under way and the keys of its shape that it has been given. -/
structure Draft (ρ : Type) where
  record : ρ
  given : List String

/-- One member is put into a record. `repeated` is the failure of a key that comes again, told before
its value is looked at; `skip` looks at the value of a key that the shape does not have. -/
def put (shape : Shape ν ε ρ) (repeated : String → ε) (skip : ν → Except ε Unit) (key : String)
    (value : ν) (under : Draft ρ) : Except ε (Draft ρ) :=
  match shape.attribute? key with
  | none => (skip value).map fun _ => under
  | some wanted =>
    if under.given.contains key then .error (repeated key)
    else (wanted.read value).map fun update => ⟨update under.record, key :: under.given⟩

/-- Values are put into the attributes by position. Gives the record, and the attributes or the values
that are left. -/
def place : List (Attribute ν ε ρ) → List ν → ρ → Except ε (ρ × List (Attribute ν ε ρ) × List ν)
  | [], values, record => .ok (record, [], values)
  | wanted, [], record => .ok (record, wanted, [])
  | wanted :: others, value :: values, record =>
    match wanted.read value with
    | .error e => .error e
    | .ok update => place others values (update record)

end Shape

/-- What a format offers for reading its values `ν`, with failures `ε`. -/
structure Reader (ν ε : Type) where
  text : ν → Except ε String
  flag : ν → Except ε Bool
  count : ν → Except ε UInt32
  isNull : ν → Except ε Bool
  list : {α : Type} → (ν → Except ε α) → ν → Except ε (List α)
  record : {ρ : Type} → Shape ν ε ρ → ν → Except ε ρ

/-- A value that may be null. -/
def Reader.optional {ν ε α : Type} (reader : Reader ν ε) (read : ν → Except ε α) (value : ν) :
    Except ε (Option α) := do
  if ← reader.isNull value then return none else return some (← read value)

namespace Attribute
variable {ν ε ρ α : Type}

/-- An attribute that is read by `read` and put in place by `set`. -/
def of (key : String) (presence : Presence) (read : ν → Except ε α) (set : α → ρ → ρ) :
    Attribute ν ε ρ :=
  ⟨key, presence, fun value => (read value).map set⟩

end Attribute

end EntityGen
