import EntityGen.Entity
import EntityGen.Proofs.Text.Lines

/-!
The items of an entity one at a time. `Entity.only` is the entity of the same class and table that has a
single item; what a renderer writes for an item it has to write for that entity as well. `Entity.texts` are
the texts of an entity that reach its declaration, and `Entity.OneLine` asks each of them to hold no line
break. -/
namespace EntityGen
open Text

/-! ### Texts -/

def Rule.texts : Rule → List String
  | .choice values => values
  | _ => []

/-- The texts of the side that the relation is on. What its record has of the other side is written nowhere. -/
def OneToOne.sideTexts (r : OneToOne) : List String :=
  if r.isInverse then r.peerField.toList else r.joinColumn.toList ++ r.onDelete.toList

def ManyToMany.sideTexts (r : ManyToMany) : List String :=
  if r.isInverse then r.peerField.toList
  else r.joinTable.toList ++ r.joinColumn.toList ++ r.peerJoinColumn.toList

namespace Item

def name : Item → String
  | .column c => c.name
  | .oneToOne r => r.name
  | .manyToOne r => r.name
  | .oneToMany r => r.name
  | .manyToMany r => r.name

/-- The model that the item refers to. -/
def relatedModel : Item → Option String
  | .column _ => none
  | .oneToOne r => r.relatedModel
  | .manyToOne r => r.relatedModel
  | .oneToMany r => r.relatedModel
  | .manyToMany r => r.relatedModel

/-- The property of the item may be absent. Relations to many never are. -/
def nullable : Item → Bool
  | .column c => c.nullable
  | .oneToOne r => r.nullable
  | .manyToOne r => r.nullable
  | .oneToMany _ | .manyToMany _ => false

/-- The texts of an item. -/
def texts : Item → List String
  | .column c => c.name :: c.column :: c.rules.flatMap Rule.texts
  | .oneToOne r => r.name :: (r.relatedModel.toList ++ r.sideTexts)
  | .manyToOne r => r.name :: r.joinColumn :: (r.relatedModel.toList ++ r.onDelete.toList)
  | .oneToMany r => r.name :: (r.relatedModel.toList ++ r.peerField.toList)
  | .manyToMany r => r.name :: (r.relatedModel.toList ++ r.sideTexts)

/-- No text of the item holds a line break. -/
def OneLine (item : Item) : Prop := ∀ s ∈ item.texts, Text.OneLine s

instance (item : Item) : Decidable item.OneLine := inferInstanceAs (Decidable (∀ s ∈ item.texts, _))

end Item

namespace Entity
variable (e : Entity)

/-- The items of an entity are those of its columns and of its four kinds of relations. -/
theorem forall_mem_items {e : Entity} {P : Item → Prop} :
    (∀ item ∈ e.items, P item) ↔
      (∀ c ∈ e.columns, P (.column c)) ∧ (∀ r ∈ e.oneToOne, P (.oneToOne r)) ∧
      (∀ r ∈ e.manyToOne, P (.manyToOne r)) ∧ (∀ r ∈ e.oneToMany, P (.oneToMany r)) ∧
      ∀ r ∈ e.manyToMany, P (.manyToMany r) := by
  simp only [items, List.forall_mem_append, List.forall_mem_map, and_assoc]

/-- The texts of an entity: of its class, its table and its items. -/
def texts : List String := e.className :: e.table :: e.items.flatMap Item.texts

theorem forall_mem_texts {e : Entity} {P : String → Prop} :
    (∀ s ∈ e.texts, P s) ↔
      P e.className ∧ P e.table ∧ ∀ item ∈ e.items, ∀ s ∈ item.texts, P s := by
  rw [texts, List.forall_mem_cons, List.forall_mem_cons, List.forall_mem_flatMap]

/-- No text of the entity holds a line break. -/
def OneLine : Prop := ∀ s ∈ e.texts, Text.OneLine s

instance : Decidable e.OneLine := inferInstanceAs (Decidable (∀ s ∈ e.texts, _))

variable {e}

theorem OneLine.className (h : e.OneLine) : Text.OneLine e.className := (forall_mem_texts.mp h).1

theorem OneLine.table (h : e.OneLine) : Text.OneLine e.table := (forall_mem_texts.mp h).2.1

theorem OneLine.item (h : e.OneLine) {item : Item} (hi : item ∈ e.items) : item.OneLine :=
  (forall_mem_texts.mp h).2.2 item hi

/-! ### A single item -/

variable (e)

/-- The entity with nothing but the item, of the same class and table. -/
def only (item : Item) : Entity :=
  let bare : Entity := { app := e.app, className := e.className, table := e.table }
  match item with
  | .column c => { bare with columns := [c] }
  | .oneToOne r => { bare with oneToOne := [r] }
  | .manyToOne r => { bare with manyToOne := [r] }
  | .oneToMany r => { bare with oneToMany := [r] }
  | .manyToMany r => { bare with manyToMany := [r] }

variable (item : Item)

@[simp] theorem items_only : (e.only item).items = [item] := by cases item <;> rfl

@[simp] theorem className_only : (e.only item).className = e.className := by cases item <;> rfl

@[simp] theorem table_only : (e.only item).table = e.table := by cases item <;> rfl

/-- An entity with an item of every shape. -/
def article : Entity where
  app := "blog"
  className := "Article"
  table := "blog_article"
  columns := [⟨"title", "title", false, .char, .string, .none, [], some 80, false, true, false, true⟩]
  oneToOne := [⟨"cover", some "Image", true, false, some "cover_id", some "SET_NULL", none⟩,
    ⟨"draft", some "Draft", false, true, none, none, some "article"⟩]
  manyToOne := [⟨"author", some "Author", "author_id", false, some "CASCADE"⟩]
  oneToMany := [⟨"comments", some "Comment", some "article"⟩]
  manyToMany := [⟨"tags", some "Tag", false, some "article_tag", some "article_id", some "tag_id", none⟩,
    ⟨"readers", some "Reader", true, none, none, none, some "articles"⟩]

end Entity

end EntityGen
