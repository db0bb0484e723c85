/-!
Manifests: descriptions of models, grouped by app. A manifest is a list of app entries, in which a label
may occur more than once; the models of an app are those of all its entries. -/
namespace EntityGen

/-- One field of a model as its manifest describes it. -/
structure Field where
  name : String := ""
  /-- The declared kind, which the catalogue need not have. -/
  kind : String := ""
  null : Bool := false
  blank : Bool := true
  primaryKey : Bool := false
  unique : Bool := false
  dbIndex : Bool := false
  /-- The column, if it is not called like the field. -/
  column : Option String := none
  maxLength : Option UInt32 := none
  choices : List String := []
  /-- Set whenever the entity is saved. -/
  autoNow : Bool := false
  /-- Set when the entity is first saved. -/
  autoNowAdd : Bool := false
  isRelation : Bool := false
  oneToOne : Bool := false
  manyToOne : Bool := false
  oneToMany : Bool := false
  manyToMany : Bool := false
  /-- Declared on the related side and not on the owning one. -/
  isReverse : Bool := false
  relatedModel : Option String := none
  /-- The attribute that holds the key of the related entity. -/
  attname : Option String := none
  accessorName : Option String := none
  /-- The owning field on the related side. -/
  peerField : Option String := none
  joinTable : Option String := none
  joinColumn : Option String := none
  peerJoinColumn : Option String := none
  onDelete : Option String := none
  deriving DecidableEq, Repr

namespace Field

/-- The column that holds the field. -/
def columnName (field : Field) : String := field.column.getD field.name

/-- How many relation shapes the field claims to have. -/
def shapeCount (field : Field) : Nat :=
  field.oneToOne.toNat + field.manyToOne.toNat + field.oneToMany.toNat + field.manyToMany.toNat

/-- What the related side calls the relation: its own name, or else the field's. -/
def accessor (field : Field) : String := field.accessorName.getD field.name

end Field

structure Model where
  /-- The name of the model's class. -/
  name : String := ""
  /-- The table that holds its entities. -/
  table : String := ""
  fields : List Field := []
  deriving DecidableEq, Repr

/-- An entry of a manifest: an app's label and models of it. -/
structure App where
  label : String := ""
  models : List Model := []
  deriving DecidableEq, Repr

structure Manifest where
  apps : List App := []
  deriving DecidableEq, Repr

/-- Each value once, where it first occurs. -/
def firstOccurrences {α : Type} [BEq α] : List α → List α
  | [] => []
  | a :: rest => a :: (firstOccurrences rest).filter (fun b => !(b == a))

theorem mem_firstOccurrences {α : Type} [BEq α] [LawfulBEq α] {a : α} {l : List α} :
    a ∈ firstOccurrences l ↔ a ∈ l := by
  induction l with
  | nil => simp [firstOccurrences]
  | cons b rest ih =>
    simp only [firstOccurrences, List.mem_cons, List.mem_filter, ih]
    by_cases h : a = b <;> simp [h]

theorem nodup_firstOccurrences {α : Type} [BEq α] [LawfulBEq α] (l : List α) :
    (firstOccurrences l).Nodup := by
  induction l with
  | nil => simp [firstOccurrences]
  | cons b rest ih =>
    rw [firstOccurrences, List.nodup_cons]
    exact ⟨by simp, ih.filter _⟩

namespace Manifest

/-- The labels of a manifest, each once, in the order in which they first occur. -/
def labels (manifest : Manifest) : List String :=
  firstOccurrences (manifest.apps.map (·.label))

/-- The models of all entries with a label, in order; nothing if no entry has it. -/
def models? (manifest : Manifest) (label : String) : Option (List Model) :=
  let entries := manifest.apps.filter (·.label == label)
  if entries.isEmpty then none else some (entries.flatMap (·.models))

theorem mem_labels {manifest : Manifest} {label : String} :
    label ∈ manifest.labels ↔ ∃ app ∈ manifest.apps, app.label = label := by
  simp [labels, mem_firstOccurrences]

end Manifest

end EntityGen
