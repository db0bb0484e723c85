import EntityGen.Proofs.Identifier.Canonical
import EntityGen.Proofs.Render.Kotlin.Items

/-!
Relations that are held on the other side. The annotation of such a relation names, behind `mappedBy`, the
property of the other class that holds it. What stands there is the name of the other side's field as it is,
while the other class declares its property in Kotlin's casing. So the reference is to a declared property
exactly if casing leaves the name alone (`mappedBy_resolves_iff`), which among canonical names are the single
words. -/
namespace EntityGen

/-- The field of the other side that holds the relation, where there is another side. -/
def Item.peerField? : Item → Option String
  | .column _ | .manyToOne _ => none
  | .oneToOne r => if r.isInverse then r.peerField else none
  | .oneToMany r => r.peerField
  | .manyToMany r => if r.isInverse then r.peerField else none

namespace Kotlin
open Text

/-- The annotation by which an inverse item says that `property` holds its relation. -/
def mappedBy (item : Item) (property : String) : String :=
  match item with
  | .oneToMany _ => "@OneToMany(mappedBy = \"" ++ property ++ "\")"
  | .manyToMany _ => "@ManyToMany(mappedBy = \"" ++ property ++ "\")"
  | .oneToOne _ | .column _ | .manyToOne _ =>
    "@OneToOne(mappedBy = \"" ++ property ++
      ("\"" ++ (if item.nullable then ", optional = true" else "") ++ ")")

/-! ### Annotations -/

/-- The property stands between what is the same for every property. No other line starts alike: an annotation
against null goes on with an `N`, and the line of a property has no `@`. -/
theorem mappedBy_eq (item : Item) :
    ∃ before after, (∀ property, mappedBy item property = before ++ property ++ after) ∧
      ∃ c rest, before.toList = '@' :: c :: rest ∧ c ≠ 'N' := by
  cases item with
  | oneToMany | manyToMany => exact ⟨_, _, fun _ => rfl, _, _, rfl, by decide⟩
  | oneToOne | column | manyToOne => exact ⟨_, _, fun _ => rfl, _, _, rfl, by decide⟩

theorem mappedBy_injective {item : Item} {name other : String}
    (same : mappedBy item name = mappedBy item other) : name = other := by
  obtain ⟨before, after, spelled, -⟩ := mappedBy_eq item
  rw [spelled, spelled, ← String.toList_inj] at same
  exact String.toList_inj.mp (by simpa using same)

theorem mappedBy_ne_notNull (item : Item) (name : String) : mappedBy item name ≠ "@NotNull" := by
  obtain ⟨before, after, spelled, c, rest, start, hc⟩ := mappedBy_eq item
  intro same
  rw [spelled, ← String.toList_inj, String.toList_append, String.toList_append, start] at same
  exact hc (List.cons.inj (List.cons.inj same).2).1

theorem mappedBy_ne_property (item : Item) (name : String) (declared type : String) (nullable : Bool) :
    mappedBy item name ≠ property declared type nullable := by
  obtain ⟨before, after, spelled, c, rest, start, -⟩ := mappedBy_eq item
  intro same
  rw [spelled, property, ← String.toList_inj] at same
  simp [start] at same

theorem annotated_mappedBy (peer : String) (nullable : Bool) :
    annotated "@OneToOne" (("mappedBy = \"" ++ peer ++ "\"") :: optionalArgument nullable) =
      "@OneToOne(mappedBy = \"" ++ peer ++
        ("\"" ++ (if nullable then ", optional = true" else "") ++ ")") := by
  rw [← String.toList_inj]
  cases nullable <;> simp [annotated, optionalArgument, sepBy_cons_cons]

/-- The annotations of an inverse item are the one that names its peer, and perhaps one against null. -/
theorem Declares.mappedBy {item : Item} {marks : List String} {type peer : String}
    (d : Declares item marks type) (named : item.peerField? = some peer) :
    ∃ nullable, marks = notNull nullable ++ [Kotlin.mappedBy item peer] := by
  cases d with
  | inverseOneToOne =>
    cases named
    rw [annotated_mappedBy]
    exact ⟨_, rfl⟩
  | oneToMany | inverseManyToMany =>
    cases named
    exact ⟨true, rfl⟩
  | column | owningOneToOne | manyToOne | owningManyToMany => exact nomatch named

/-- In the block of an inverse item, the name of its peer is the only one that it is mapped by. -/
theorem mappedBy_mem_block_iff {item : Item} {ls : List String} (written : block item = .ok ls) {peer : String}
    (named : item.peerField? = some peer) (name : String) : mappedBy item name ∈ ls ↔ name = peer := by
  obtain ⟨marks, type, declares, rfl⟩ := block_eq_ok_iff.mp written
  obtain ⟨nullable, rfl⟩ := declares.mappedBy named
  simp only [List.mem_append, List.mem_singleton]
  constructor
  · intro h
    rcases h with (h | h) | h
    · have marks : ∀ s ∈ notNull nullable, s = "@NotNull" := forall_mem_onlyIf rfl
      exact absurd (marks _ h) (mappedBy_ne_notNull item name)
    · exact mappedBy_injective h
    · exact absurd h (mappedBy_ne_property item name _ _ _)
  · intro same
    exact .inl (.inr (same ▸ rfl))

/-! ### Classes -/

/-- The blocks of a class stand in its text. -/
theorem exists_block_of_render {e : Entity} {text : String} (written : render e = .ok text) {item : Item}
    (hi : item ∈ e.items) :
    ∃ ls, block item = .ok ls ∧ ∃ before after, text = before ++ layout ls ++ after := by
  rw [render_eq] at written
  obtain ⟨blocks, run, rfl⟩ := map_eq_ok_iff.mp written
  obtain ⟨first, ls, last, rfl, hb⟩ := exists_split_of_mem_forall₂ (mapM_eq_ok_iff.mp run) hi
  have split : concat ((first ++ ls :: last).map layout) =
      concat (first.map layout) ++ (layout ls ++ concat (last.map layout)) := by
    rw [List.map_append, concat_append, List.map_cons, concat_cons]
  let head := "@Entity\n@Table(name = \"" ++ e.table ++ "\")\nclass " ++ e.className ++ " (\n"
  have whole : declaration e.className e.table (first ++ ls :: last) =
      head ++ concat ((first ++ ls :: last).map layout) ++ ")\n\n" := rfl
  refine ⟨ls, hb, head ++ concat (first.map layout), concat (last.map layout) ++ ")\n\n", ?_⟩
  rw [whole, split]
  simp only [String.append_assoc]

/-- **When a reference to the other side resolves.** Take a relation that the other class holds in `owner`.
The other class declares the property for it in Kotlin's casing, but the relation is mapped by the name as it
is. So it is mapped by the declared property exactly if casing leaves the name alone; a canonical name has to
be a single word. -/
theorem mappedBy_resolves_iff {e other : Entity} {text otherText : String} (written : render e = .ok text)
    (otherWritten : render other = .ok otherText) {item owner : Item} (hi : item ∈ e.items)
    (ho : owner ∈ other.items) (peer : item.peerField? = some owner.name) :
    ∃ ls ownLines marks type,
      block item = .ok ls ∧ (∃ before after, text = before ++ layout ls ++ after) ∧
      block owner = .ok ownLines ∧ (∃ before after, otherText = before ++ layout ownLines ++ after) ∧
      ownLines = marks ++ ["var " ++ Identifier.quoteKeyword (Identifier.propertyName owner.name) ++ ": " ++
        type ++ (if owner.nullable then "?" else "") ++ ","] ∧
      (∀ property, mappedBy item property ∈ ls ↔ property = owner.name) ∧
      (mappedBy item (Identifier.propertyName owner.name) ∈ ls ↔
        Identifier.propertyName owner.name = owner.name) ∧
      (Canonical owner.name →
        (mappedBy item (Identifier.propertyName owner.name) ∈ ls ↔ '_' ∉ owner.name.toList)) := by
  obtain ⟨ls, hls, place⟩ := exists_block_of_render written hi
  obtain ⟨ownLines, hown, otherPlace⟩ := exists_block_of_render otherWritten ho
  obtain ⟨marks, type, -, declared⟩ := block_eq_ok_iff.mp hown
  rw [property, Identifier.kotlin_eq] at declared
  have mapped := mappedBy_mem_block_iff hls peer
  refine ⟨ls, ownLines, marks, type, hls, place, hown, otherPlace, declared.symm, mapped, mapped _,
    fun canonical => ?_⟩
  rw [mapped, Identifier.propertyName_eq_iff canonical]

/-- A class whose comments are held on the other side, in the field of that name. -/
def commented (field : String) : Entity where
  app := "blog"
  className := "Post"
  table := "blog_post"
  oneToMany := [⟨"comments", some "Comment", some field⟩]

/-- The class of the comments, each held in the field of that name. -/
def comment (field : String) : Entity where
  app := "blog"
  className := "Comment"
  table := "blog_comment"
  manyToOne := [⟨field, some "Post", field ++ "_id", false, some "CASCADE"⟩]

theorem mappedBy_resolves_post :
    ∃ text otherText, render (commented "post") = .ok text ∧ render (comment "post") = .ok otherText ∧
      ∃ ls, (∃ before after, text = before ++ layout ls ++ after) ∧ "@OneToMany(mappedBy = \"post\")" ∈ ls ∧
        Identifier.propertyName "post" = "post" := by
  have relation : Item.oneToMany ⟨"comments", some "Comment", some "post"⟩ ∈ (commented "post").items := by
    decide
  have owner : Item.manyToOne ⟨"post", some "Post", "post_id", false, some "CASCADE"⟩ ∈
    (comment "post").items := by decide
  have single : Identifier.propertyName "post" = "post" := by decide +kernel
  obtain ⟨ls, -, -, -, -, place, -, -, -, -, resolves, -⟩ :=
    mappedBy_resolves_iff rfl rfl relation owner rfl
  have mapped : mappedBy (.oneToMany ⟨"comments", some "Comment", some "post"⟩)
    (Identifier.propertyName "post") ∈ ls := resolves.mpr single
  rw [single] at mapped
  exact ⟨_, _, rfl, rfl, ls, place, mapped, single⟩

/-- Two words: the class is mapped by a property `parent_post`, and the other declares `parentPost`. -/
theorem mappedBy_unresolved_parentPost :
    Identifier.propertyName "parent_post" = "parentPost" ∧
    render (commented "parent_post") = .ok
      ("@Entity\n@Table(name = \"blog_post\")\nclass Post (\n" ++
        "\n    @OneToMany(mappedBy = \"parent_post\")\n    var comments: List<Comment>,\n)\n\n") ∧
    render (comment "parent_post") = .ok
      ("@Entity\n@Table(name = \"blog_comment\")\nclass Comment (\n" ++
        "\n    @NotNull\n    @ManyToOne\n    @JoinColumn(name = \"parent_post_id\")\n" ++
        "    var parentPost: Post,\n)\n\n") := by
  decide +kernel

end Kotlin

end EntityGen
