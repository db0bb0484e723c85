import EntityGen.Proofs.Identifier.Characters
import EntityGen.Proofs.Render.Kotlin.Blocks

/-!
The lines of blocks. The annotations and the type that an item declares have every structural property that the
texts of the item have (`Declares.held`); only the table that joins two entities takes lines that are clean
together and not one by one. No annotation looks like a property (`IsMark.not_isProperty`): the last line of a
block is the only one that does. -/
namespace EntityGen.Kotlin
open Text

/-- The line starts as the declarations of properties in a class do. -/
def isProperty (line : String) : Bool := "    var ".toList.isPrefixOf line.toList

/-- A text with a property that does not start as the declaration of a property does. -/
def IsMark (P : String → Prop) (s : String) : Prop := P s ∧ s.toList.head?.any (· != 'v') = true

instance {P : String → Prop} [DecidablePred P] (s : String) : Decidable (IsMark P s) :=
  inferInstanceAs (Decidable (_ ∧ _))

theorem IsMark.not_isProperty {P : String → Prop} {s : String} (h : IsMark P s) :
    isProperty ("    " ++ s) = false := by
  obtain ⟨-, start⟩ := h
  cases hs : s.toList with
  | nil => simp [hs] at start
  | cons c rest =>
    have hc : c ≠ 'v' := by simpa [hs] using start
    simp [isProperty, hs, List.isPrefixOf, hc.symm]

section Structural
variable {P : String → Prop} (hP : Structural P)
include hP

/-- A keyword stands between backticks, any other name is letters and digits. -/
theorem held_identifier (name : String) : P (Identifier.kotlin name) := by
  have word : P (Identifier.propertyName name) := hP.wordlike (Identifier.wordlike_propertyName name)
  rw [Identifier.kotlin_eq, Identifier.quoteKeyword]
  split
  · exact hP.between (by decide) word
  · exact word

theorem held_property {name type : String} {nullable : Bool} (h : P type) : P (property name type nullable) := by
  have mark : P (if nullable then "?" else "") := by cases nullable <;> exact hP.clean (by decide)
  have head : P ("var " ++ Identifier.kotlin name) := hP.append (hP.clean (by decide)) (held_identifier hP name)
  have typed : P ("var " ++ Identifier.kotlin name ++ ": " ++ type) :=
    hP.append (hP.append head (hP.clean (by decide))) h
  exact hP.append (hP.append typed mark) (hP.clean (by decide))

/-! ### Annotations -/

theorem isMark_of_clean {s : String} (h : IsMark Clean s) : IsMark P s := ⟨hP.clean h.1, h.2⟩

/-- What stands in an annotation does not matter, if it stands between ends that are clean together. -/
theorem isMark_between {before s after : String} (ends : Clean (before ++ after))
    (start : before.toList.head?.any (· != 'v') = true) (h : P s) : IsMark P (before ++ s ++ after) := by
  refine ⟨hP.between ends h, ?_⟩
  cases hb : before.toList with
  | nil => simp [hb] at start
  | cons c rest => simpa [hb] using start

theorem isMark_annotated {name : String} {arguments : List String} (hn : IsMark Clean name)
    (ends : Clean (name ++ "(" ++ ")")) (ha : ∀ s ∈ arguments, P s) : IsMark P (annotated name arguments) := by
  unfold annotated
  split
  · exact isMark_of_clean hP hn
  · refine isMark_between hP ends ?_ (hP.sepBy (by decide) ha)
    cases hs : name.toList with
    | nil => simp [IsMark, hs] at hn
    | cons c rest => simpa [IsMark, hs] using hn.2

theorem isMark_generation (generation : Generation) : ∀ s ∈ generationAnnotations generation, IsMark P s := by
  have clean : ∀ s ∈ generationAnnotations generation, IsMark Clean s := by cases generation <;> decide
  exact fun s hs => isMark_of_clean hP (clean s hs)

theorem isMark_rule {rule : Rule} {mark : String} (h : ruleMark? rule = some mark) : IsMark P mark := by
  cases rule with
  | email | url =>
    cases h
    exact isMark_of_clean hP (by decide)
  | atLeast min =>
    cases h
    exact isMark_between hP (by decide) (by decide) (hP.int min)
  | ip | choice _ => exact nomatch h

theorem isMark_columnAnnotations (c : Column) : ∀ s ∈ columnAnnotations c, IsMark P s := by
  intro s hs
  simp only [columnAnnotations, List.cons_append, List.mem_cons, List.mem_append, List.mem_filterMap] at hs
  rcases hs with rfl | (hs | hs) | ⟨rule, -, hs⟩
  · cases c.nullable <;> exact isMark_of_clean hP (by decide)
  · exact forall_mem_onlyIf (isMark_of_clean hP (by decide)) s hs
  · exact isMark_generation hP c.generation s hs
  · exact isMark_rule hP hs

theorem isMark_notNull (nullable : Bool) : ∀ s ∈ notNull nullable, IsMark P s :=
  forall_mem_onlyIf (isMark_of_clean hP (by decide))

theorem held_optionalArgument (nullable : Bool) : ∀ s ∈ optionalArgument nullable, P s :=
  forall_mem_onlyIf (hP.clean (by decide))

/-- A reference that is held here. -/
theorem isMark_reference {name join : String} (hn : IsMark Clean name) (ends : Clean (name ++ "(" ++ ")"))
    (hj : P join) (nullable : Bool) :
    ∀ s ∈ notNull nullable ++ [annotated name (optionalArgument nullable), joinColumnMark join],
      IsMark P s := by
  have mark := isMark_annotated hP hn ends (held_optionalArgument hP nullable)
  have column : IsMark P (joinColumnMark join) := isMark_between hP (by decide) (by decide) hj
  exact List.forall_mem_append.mpr
    ⟨isMark_notNull hP nullable, List.forall_mem_cons.mpr ⟨mark, List.forall_mem_singleton.mpr column⟩⟩

theorem held_listOf {model : String} (h : P model) : P (listOf model) := hP.between (by decide) h

/-- What an item declares has every structural property that its texts have. The lines for a table that joins
two entities are an exception: two of them open and close a bracket. -/
theorem Declares.held {item : Item} {marks : List String} {type : String} (d : Declares item marks type)
    (h : ∀ s ∈ item.texts, P s) :
    ((∀ s ∈ marks, IsMark P s) ∨
      ∃ table join peerJoin, marks = joinTableMarks table join peerJoin ∧ P table ∧ P join ∧ P peerJoin) ∧
    P type := by
  cases d with
  | @column c value _ =>
    exact ⟨.inl (isMark_columnAnnotations hP c), by cases value <;> exact hP.clean (by decide)⟩
  | @inverseOneToOne name _ peer nullable =>
    have hpeer : P peer := h peer (by simp [Item.texts, OneToOne.sideTexts])
    have mappedBy : P ("mappedBy = \"" ++ peer ++ "\"") := hP.between (by decide) hpeer
    have mark := isMark_annotated hP (by decide : IsMark Clean "@OneToOne") (by decide)
      (List.forall_mem_cons.mpr ⟨mappedBy, held_optionalArgument hP nullable⟩)
    exact ⟨.inl (List.forall_mem_append.mpr ⟨isMark_notNull hP nullable, List.forall_mem_singleton.mpr mark⟩),
      h type (by simp [Item.texts])⟩
  | @owningOneToOne name _ join nullable _ =>
    have hjoin : P join := h join (by simp [Item.texts, OneToOne.sideTexts])
    exact ⟨.inl (isMark_reference hP (by decide) (by decide) hjoin nullable), h type (by simp [Item.texts])⟩
  | @manyToOne name _ join nullable _ =>
    have hjoin : P join := h join (by simp [Item.texts])
    exact ⟨.inl (isMark_reference hP (by decide) (by decide) hjoin nullable), h type (by simp [Item.texts])⟩
  | @oneToMany name model peer =>
    have hpeer : P peer := h peer (by simp [Item.texts])
    exact ⟨.inl (List.forall_mem_singleton.mpr (isMark_between hP (by decide) (by decide) hpeer)),
      held_listOf hP (h model (by simp [Item.texts]))⟩
  | @inverseManyToMany name model peer =>
    have hpeer : P peer := h peer (by simp [Item.texts, ManyToMany.sideTexts])
    exact ⟨.inl (List.forall_mem_singleton.mpr (isMark_between hP (by decide) (by decide) hpeer)),
      held_listOf hP (h model (by simp [Item.texts]))⟩
  | @owningManyToMany name model table join peerJoin =>
    have htable : P table := h table (by simp [Item.texts, ManyToMany.sideTexts])
    have hjoin : P join := h join (by simp [Item.texts, ManyToMany.sideTexts])
    have hpeer : P peerJoin := h peerJoin (by simp [Item.texts, ManyToMany.sideTexts])
    exact ⟨.inr ⟨table, join, peerJoin, rfl, htable, hjoin, hpeer⟩,
      held_listOf hP (h model (by simp [Item.texts]))⟩

end Structural

/-! ### Line breaks -/

theorem isMark_joinTableMarks {table join peerJoin : String} (ht : OneLine table) (hj : OneLine join)
    (hp : OneLine peerJoin) : ∀ s ∈ joinTableMarks table join peerJoin, IsMark OneLine s := by
  intro s hs
  simp only [joinTableMarks, List.mem_cons, List.mem_nil_iff, or_false] at hs
  rcases hs with rfl | rfl | rfl | rfl | rfl | rfl
  · decide
  · decide
  · exact ⟨OneLine.append (by decide) (OneLine.insert (by decide) ht), by simp⟩
  · exact ⟨OneLine.append (by decide) (OneLine.insert (by decide) hj), by simp⟩
  · exact ⟨OneLine.append (by decide) (OneLine.insert (by decide) hp), by simp⟩
  · decide

/-- What an item without line breaks declares is annotations and a type without. -/
theorem Declares.isMark {item : Item} {marks : List String} {type : String}
    (d : Declares item marks type) (h : item.OneLine) : (∀ s ∈ marks, IsMark OneLine s) ∧ OneLine type := by
  obtain ⟨lines | ⟨table, join, peerJoin, rfl, ht, hj, hp⟩, oneType⟩ := d.held structural_oneLine h
  · exact ⟨lines, oneType⟩
  · exact ⟨isMark_joinTableMarks ht hj hp, oneType⟩

theorem isProperty_property (name type : String) (nullable : Bool) :
    isProperty ("    " ++ property name type nullable) = true := by
  simp [isProperty, property]

end EntityGen.Kotlin
