import EntityGen.Proofs.Conversion.Accounting
import EntityGen.Proofs.Sequence

/-!
The two sides of a field's description. Some attributes are there for stored fields and some for relations,
and a manifest may give a field any of them. `Field.SameSide` says that two fields differ at most in
attributes of the side that they are not on. Such fields become the same part and tell the same
(`Field.SameSide.part_eq`); from fields this goes up to models, apps and whole conversions
(`attributes_keep_to_their_side`). -/
namespace EntityGen

/-! ### Fields that differ on the wrong side -/

/-- The second field is the first with other attributes of the side that it is not on. -/
inductive Field.SameSide (f : Field) : Field → Prop
  | relation (side : f.isRelation = true) (kind : String) (blank primaryKey unique dbIndex : Bool)
      (column : Option String) (maxLength : Option UInt32) (choices : List String)
      (autoNow autoNowAdd : Bool) :
    SameSide f { f with kind, blank, primaryKey, unique, dbIndex, column, maxLength, choices, autoNow, autoNowAdd }
  | stored (side : f.isRelation = false) (oneToOne manyToOne oneToMany manyToMany isReverse : Bool)
      (relatedModel attname accessorName peerField joinTable joinColumn peerJoinColumn onDelete :
        Option String) :
    SameSide f { f with
      oneToOne, manyToOne, oneToMany, manyToMany, isReverse, relatedModel, attname, accessorName, peerField,
      joinTable, joinColumn, peerJoinColumn, onDelete }

/-- The models have the same name and table, and their fields differ on the wrong side only. -/
structure Model.SameSides (m₁ m₂ : Model) : Prop where
  name : m₁.name = m₂.name
  table : m₁.table = m₂.table
  fields : List.Forall₂ Field.SameSide m₁.fields m₂.fields

structure App.SameSides (a₁ a₂ : App) : Prop where
  label : a₁.label = a₂.label
  models : List.Forall₂ Model.SameSides a₁.models a₂.models

/-- The manifests have the same apps and models, whose fields differ on the wrong side only. -/
def Manifest.SameSides (m₁ m₂ : Manifest) : Prop := List.Forall₂ App.SameSides m₁.apps m₂.apps

namespace Field.SameSide
variable {f g : Field}

theorem isRelation_eq (h : f.SameSide g) : f.isRelation = g.isRelation := by
  cases h <;> rfl

/-- A relation is read without the attributes of stored values, and a stored field without those of
relations. -/
theorem part_eq (h : f.SameSide g) (model : String) : f.part model = g.part model := by
  cases h with
  | relation side =>
    show (if f.isRelation then f.relationPart model else _) = if f.isRelation then f.relationPart model else _
    rw [if_pos side, if_pos side]
  | stored side =>
    show (if f.isRelation then _ else f.storedPart model) = if f.isRelation then _ else f.storedPart model
    rw [side]
    rfl

end Field.SameSide

/-! ### Models -/

/-- Runs over elements that do the same are the same. -/
theorem Traced.forEach_congr {α β ε : Type} {f : α → Traced ε β} {l₁ l₂ : List α}
    (h : List.Forall₂ (fun a b => f a = f b) l₁ l₂) : forEach f l₁ = forEach f l₂ := by
  induction h with
  | nil => rfl
  | cons hab _ ih => rw [forEach_cons, forEach_cons, hab, ih]

namespace Model.SameSides
variable {m₁ m₂ : Model}

/-- Both models have their stored fields first and then their relations, and each field keeps its side. -/
theorem inOrder (h : m₁.SameSides m₂) : List.Forall₂ Field.SameSide m₁.inOrder m₂.inOrder := by
  have relations : ∀ ⦃f g : Field⦄, f.SameSide g → (f.isRelation = true ↔ g.isRelation = true) := by
    intro f g h
    rw [h.isRelation_eq]
  have stored : ∀ ⦃f g : Field⦄, f.SameSide g → ((!f.isRelation) = true ↔ (!g.isRelation) = true) := by
    intro f g h
    rw [h.isRelation_eq]
  exact List.rel_append (List.rel_filter stored h.fields) (List.rel_filter relations h.fields)

/-- The models become the same entity, or fail alike, and tell the same. -/
theorem normalize_eq (h : m₁.SameSides m₂) (app : String) : m₁.normalize app = m₂.normalize app := by
  have parts : Traced.forEach (Field.part m₁.name) m₁.inOrder =
      Traced.forEach (Field.part m₂.name) m₂.inOrder := by
    rw [h.name]
    exact Traced.forEach_congr (h.inOrder.imp fun _ _ side => side.part_eq m₂.name)
  have entity : Model.entityOf app m₁ = Model.entityOf app m₂ := by
    funext parts
    rw [entityOf, entityOf, h.name, h.table]
  rw [normalize, normalize, parts, entity]

end Model.SameSides

/-! ### Conversions -/

namespace Conversion
variable {m₁ m₂ : Model}

theorem written_eq (h : m₁.SameSides m₂) (options : Options) (app : String) :
    written options app m₁ = written options app m₂ := by
  funext e dialect
  rw [written, written, h.name]

theorem ofModel_eq (h : m₁.SameSides m₂) (options : Options) (app : String) (dialects : List Dialect) :
    ofModel options app m₁ dialects = ofModel options app m₂ dialects := by
  rw [ofModel, ofModel, h.normalize_eq app, h.name, written_eq h options app]

end Conversion

namespace Manifest.SameSides
variable {m₁ m₂ : Manifest}

theorem labels_eq (h : m₁.SameSides m₂) : m₁.labels = m₂.labels := by
  have same : List.Forall₂ (fun a₁ a₂ : App => a₁.label = a₂.label) m₁.apps m₂.apps :=
    h.imp fun _ _ apps => apps.label
  have images := List.forall₂_map_left_iff.mpr (List.forall₂_map_right_iff.mpr same)
  rw [List.forall₂_eq_eq_eq] at images
  rw [labels, labels, images]

/-- The same models are in scope, under the same labels. -/
theorem selected (h : m₁.SameSides m₂) (scopes : List String) :
    List.Forall₂ (fun p q : String × Model => p.1 = q.1 ∧ p.2.SameSides q.2)
      (Conversion.selected m₁.apps scopes) (Conversion.selected m₂.apps scopes) := by
  have inScope : ∀ ⦃a₁ a₂ : App⦄, a₁.SameSides a₂ →
      (scopes.contains a₁.label = true ↔ scopes.contains a₂.label = true) := by
    intro a₁ a₂ apps
    rw [apps.label]
  have models : ∀ ⦃a₁ a₂ : App⦄, a₁.SameSides a₂ →
      List.Forall₂ (fun p q : String × Model => p.1 = q.1 ∧ p.2.SameSides q.2)
        (a₁.models.map (a₁.label, ·)) (a₂.models.map (a₂.label, ·)) := by
    intro a₁ a₂ apps
    rw [List.forall₂_map_left_iff, List.forall₂_map_right_iff]
    exact apps.models.imp fun _ _ models => ⟨apps.label, models⟩
  exact List.rel_flatMap (List.rel_filter inScope h) models

theorem run_eq (h : m₁.SameSides m₂) (scopes : List String) (targets : List Dialect) (options : Options) :
    Conversion.run m₁ scopes targets options = Conversion.run m₂ scopes targets options := by
  have unknown : Conversion.unknownApps m₁ scopes = Conversion.unknownApps m₂ scopes := by
    rw [Conversion.unknownApps, Conversion.unknownApps, h.labels_eq]
  have models : (Conversion.selected m₁.apps scopes).map
        (fun p => Conversion.ofModel options p.1 p.2 (firstOccurrences targets)) =
      (Conversion.selected m₂.apps scopes).map
        fun p => Conversion.ofModel options p.1 p.2 (firstOccurrences targets) := by
    rw [← List.forall₂_eq_eq_eq, List.forall₂_map_left_iff, List.forall₂_map_right_iff]
    refine (h.selected scopes).imp fun p q same => ?_
    rw [same.1, Conversion.ofModel_eq same.2]
  rw [Conversion.run_eq_extend, Conversion.run_eq_extend, Conversion.outcome, Conversion.outcome, unknown, models]

end Manifest.SameSides

/-- **Attributes keep to their side.** If two manifests differ only in what their relations say of stored
values and their stored fields of relations, each model becomes the same entity in both or fails alike, with
the same events, and no conversion tells them apart. -/
theorem attributes_keep_to_their_side {m₁ m₂ : Manifest} (h : m₁.SameSides m₂) :
    List.Forall₂ (fun a₁ a₂ : App => a₁.label = a₂.label ∧
      List.Forall₂ (fun d₁ d₂ : Model => ∀ app, d₁.normalize app = d₂.normalize app) a₁.models a₂.models)
      m₁.apps m₂.apps ∧
    ∀ (scopes : List String) (targets : List Dialect) (options : Options),
      Conversion.run m₁ scopes targets options = Conversion.run m₂ scopes targets options := by
  refine ⟨?_, h.run_eq⟩
  exact h.imp fun _ _ apps => ⟨apps.label, apps.models.imp fun _ _ models => models.normalize_eq⟩

/-- A comment whose fields are described by their own side alone. -/
def Model.comment : Model where
  name := "Comment"
  table := "blog_comment"
  fields := [
    { name := "body", kind := "TextField", blank := false },
    { name := "post", kind := "ForeignKey", isRelation := true, manyToOne := true,
      relatedModel := some "Post", attname := some "post_id" }]

/-- The same comment; its text claims to be a relation of two shapes, and its relation to be a key of five
characters. -/
def Model.muddledComment : Model where
  name := "Comment"
  table := "blog_comment"
  fields := [
    { name := "body", kind := "TextField", blank := false, oneToOne := true, manyToMany := true,
      isReverse := true, relatedModel := some "Post", attname := some "body_id", onDelete := some "CASCADE" },
    { name := "post", kind := "CharField", isRelation := true, manyToOne := true,
      relatedModel := some "Post", attname := some "post_id", primaryKey := true, maxLength := some 5,
      choices := ["first", "second"], autoNow := true }]

theorem attributes_keep_to_their_side_comment :
    Model.comment ≠ Model.muddledComment ∧
      Manifest.SameSides ⟨[⟨"blog", [.comment]⟩]⟩ ⟨[⟨"blog", [.muddledComment]⟩]⟩ ∧
      (Conversion.run ⟨[⟨"blog", [.comment]⟩]⟩ ["blog"] [.go, .kotlin] {}).isClean = true ∧
      Conversion.run ⟨[⟨"blog", [.comment]⟩]⟩ ["blog"] [.go, .kotlin] {} =
        Conversion.run ⟨[⟨"blog", [.muddledComment]⟩]⟩ ["blog"] [.go, .kotlin] {} := by
  have fields : List.Forall₂ Field.SameSide Model.comment.fields Model.muddledComment.fields :=
    .cons (.stored rfl ..) (.cons (.relation rfl ..) .nil)
  have sides : Manifest.SameSides ⟨[⟨"blog", [.comment]⟩]⟩ ⟨[⟨"blog", [.muddledComment]⟩]⟩ :=
    .cons ⟨rfl, .cons ⟨rfl, rfl, fields⟩ .nil⟩ .nil
  obtain ⟨-, alike⟩ := attributes_keep_to_their_side sides
  exact ⟨by decide, sides, rfl, alike _ _ _⟩

end EntityGen
