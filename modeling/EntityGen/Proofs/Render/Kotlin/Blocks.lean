import EntityGen.Proofs.Entity.Items
import EntityGen.Proofs.Template
import EntityGen.Render.Kotlin

/-!
The blocks that the items of an entity become. Every block is annotations and then a property. `Declares`
says for every shape of item which annotations they are and which type the property has, and
`block_eq_ok_iff` that an item has a block exactly if it declares something. -/
namespace EntityGen.Kotlin
open Text

/-- A list of related entities. -/
def listOf (model : String) : String := "List<" ++ model ++ ">"

/-- The annotations of a stored field. -/
def columnAnnotations (c : Column) : List String :=
  (if c.nullable then "@Column(nullable = true)" else "@NotNull") ::
    onlyIf c.primaryKey "@Id" ++ generationAnnotations c.generation ++ c.rules.filterMap ruleMark?

/-- The annotation that names the column of a key. -/
def joinColumnMark (column : String) : String := "@JoinColumn(name = \"" ++ column ++ "\")"

/-- The annotations of a relation over the table that joins the two. -/
def joinTableMarks (table join peerJoin : String) : List String :=
  ["@ManyToMany", "@JoinTable(", "    " ++ ("name = \"" ++ table ++ "\","),
   "    " ++ ("joinColumns = [JoinColumn(name = \"" ++ join ++ "\")],"),
   "    " ++ ("inverseJoinColumns = [JoinColumn(name = \"" ++ peerJoin ++ "\")]"), ")"]

/-- The annotations of an item and the type of its property. -/
inductive Declares : Item → List String → String → Prop
  | column {c : Column} {value : ValueKind} (h : c.kind.valueKind? = some value) :
    Declares (.column c) (columnAnnotations c) value.kotlinType
  | inverseOneToOne {name model peer : String} {nullable : Bool} {join action : Option String} :
    Declares (.oneToOne ⟨name, some model, nullable, true, join, action, some peer⟩)
      (notNull nullable ++
        [annotated "@OneToOne" (("mappedBy = \"" ++ peer ++ "\"") :: optionalArgument nullable)]) model
  | owningOneToOne {name model join : String} {nullable : Bool} {action peer : Option String} :
    Declares (.oneToOne ⟨name, some model, nullable, false, some join, action, peer⟩)
      (notNull nullable ++ [annotated "@OneToOne" (optionalArgument nullable), joinColumnMark join]) model
  | manyToOne {name model join : String} {nullable : Bool} {action : Option String} :
    Declares (.manyToOne ⟨name, some model, join, nullable, action⟩)
      (notNull nullable ++ [annotated "@ManyToOne" (optionalArgument nullable), joinColumnMark join]) model
  | oneToMany {name model peer : String} :
    Declares (.oneToMany ⟨name, some model, some peer⟩) ["@OneToMany(mappedBy = \"" ++ peer ++ "\")"]
      (listOf model)
  | inverseManyToMany {name model peer : String} {table join peerJoin : Option String} :
    Declares (.manyToMany ⟨name, some model, true, table, join, peerJoin, some peer⟩)
      ["@ManyToMany(mappedBy = \"" ++ peer ++ "\")"] (listOf model)
  | owningManyToMany {name model table join peerJoin : String} {peer : Option String} :
    Declares (.manyToMany ⟨name, some model, false, some table, some join, some peerJoin, peer⟩)
      (joinTableMarks table join peerJoin) (listOf model)

/-! ### Types -/

section Types
variable {kind : Kind} {slots : Slots} {field type : String}

/-- A related entity, alone or in a list. -/
theorem relationType (h : kind.valueKind? = none) :
    (Mapping.kotlin kind).type = Slot.relatedModel.mark ∨
      (Mapping.kotlin kind).type = "List<" ++ Slot.relatedModel.mark ++ ">" := by
  cases kind with
  | foreignKey | oneToOne | oneToOneRel => exact .inl rfl
  | manyToOneRel | manyToMany | manyToManyRel => exact .inr rfl
  | _ => exact nomatch h

theorem fill_listType :
    Template.fill ("List<" ++ Slot.relatedModel.mark ++ ">") slots field = .ok type ↔
      ∃ model, slots.relatedModel = some model ∧ listOf model = type :=
  Template.fill_around_eq_ok_iff (by decide) (by decide)

/-- A stored field has the type of its value, and a relation among the stored fields has none. -/
theorem fill_valueType :
    Template.fill (Mapping.kotlin kind).type {} field = .ok type ↔
      ∃ value, kind.valueKind? = some value ∧ value.kotlinType = type := by
  cases h : kind.valueKind? with
  | some value =>
    have bare : '\x7b' ∉ value.kotlinType.toList := by cases value <;> decide
    have mapped : (Mapping.kotlin kind).type = value.kotlinType := by
      unfold Mapping.kotlin
      rw [h]
    rw [mapped, Template.fill_bare bare]
    simp
  | none =>
    rcases relationType h with mapped | mapped
    · rw [mapped, Template.fill_alone_eq_ok_iff]
      simp [Slots.value?]
    · rw [mapped, fill_listType]
      simp

end Types

/-! ### Blocks -/

theorem columnBlock_eq_ok_iff {c : Column} {ls : List String} :
    columnBlock c = .ok ls ↔
      ∃ value, c.kind.valueKind? = some value ∧
        columnAnnotations c ++ [property c.name value.kotlinType c.nullable] = ls := by
  simp only [columnBlock, bind_eq_ok_iff, fill_valueType]
  constructor
  · intro h
    obtain ⟨_, ⟨value, hv, rfl⟩, h⟩ := h
    exact ⟨value, hv, Except.ok.inj h⟩
  · intro h
    obtain ⟨value, hv, rfl⟩ := h
    exact ⟨_, ⟨value, hv, rfl⟩, rfl⟩

section OneToOne
variable {name : String} {model? join? action peer? : Option String} {nullable : Bool} {ls : List String}

/-- The column of a key is not asked for here. -/
theorem oneToOneBlock_inverse_eq_ok_iff :
    oneToOneBlock ⟨name, model?, nullable, true, join?, action, peer?⟩ = .ok ls ↔
      ∃ peer, peer? = some peer ∧ ∃ model, model? = some model ∧
        notNull nullable ++
          [annotated "@OneToOne" (("mappedBy = \"" ++ peer ++ "\"") :: optionalArgument nullable),
           property name model nullable] = ls := by
  have before : '\x7b' ∉ "mappedBy = \"".toList := by decide
  have after : '\x7b' ∉ "\"".toList := by decide
  have type : (Mapping.kotlin .oneToOneRel).type = Slot.relatedModel.mark := rfl
  simp only [oneToOneBlock, if_true, bind_eq_ok_iff, type, Template.fill_alone_eq_ok_iff,
    Template.fill_around_eq_ok_iff before after, Slots.value?]
  constructor
  · intro h
    obtain ⟨_, ⟨peer, hp, rfl⟩, model, hm, h⟩ := h
    exact ⟨peer, hp, model, hm, Except.ok.inj h⟩
  · intro h
    obtain ⟨peer, hp, model, hm, rfl⟩ := h
    exact ⟨_, ⟨peer, hp, rfl⟩, model, hm, rfl⟩

/-- Nor is the field of the other side here. -/
theorem oneToOneBlock_owning_eq_ok_iff :
    oneToOneBlock ⟨name, model?, nullable, false, join?, action, peer?⟩ = .ok ls ↔
      ∃ join, join? = some join ∧ ∃ model, model? = some model ∧
        notNull nullable ++
          [annotated "@OneToOne" (optionalArgument nullable), joinColumnMark join,
           property name model nullable] = ls := by
  have before : '\x7b' ∉ "@JoinColumn(name = \"".toList := by decide
  have after : '\x7b' ∉ "\")".toList := by decide
  have type : (Mapping.kotlin .oneToOne).type = Slot.relatedModel.mark := rfl
  simp only [oneToOneBlock, Bool.false_eq_true, if_false, bind_eq_ok_iff, type, Template.fill_alone_eq_ok_iff,
    Template.fill_around_eq_ok_iff before after, Slots.value?]
  constructor
  · intro h
    obtain ⟨_, ⟨join, hj, rfl⟩, model, hm, h⟩ := h
    exact ⟨join, hj, model, hm, Except.ok.inj h⟩
  · intro h
    obtain ⟨join, hj, model, hm, rfl⟩ := h
    exact ⟨_, ⟨join, hj, rfl⟩, model, hm, rfl⟩

end OneToOne

theorem manyToOneBlock_eq_ok_iff {r : ManyToOne} {ls : List String} :
    manyToOneBlock r = .ok ls ↔
      ∃ model, r.relatedModel = some model ∧
        notNull r.nullable ++
          [annotated "@ManyToOne" (optionalArgument r.nullable), joinColumnMark r.joinColumn,
           property r.name model r.nullable] = ls := by
  have type : (Mapping.kotlin .foreignKey).type = Slot.relatedModel.mark := rfl
  simp only [manyToOneBlock, bind_eq_ok_iff, type, Template.fill_alone_eq_ok_iff, Slots.value?]
  constructor
  · intro h
    obtain ⟨model, hm, h⟩ := h
    exact ⟨model, hm, Except.ok.inj h⟩
  · intro h
    obtain ⟨model, hm, rfl⟩ := h
    exact ⟨model, hm, rfl⟩

theorem oneToManyBlock_eq_ok_iff {r : OneToMany} {ls : List String} :
    oneToManyBlock r = .ok ls ↔
      ∃ peer, r.peerField = some peer ∧ ∃ model, r.relatedModel = some model ∧
        ["@OneToMany(mappedBy = \"" ++ peer ++ "\")", property r.name (listOf model) false] = ls := by
  have before : '\x7b' ∉ "@OneToMany(mappedBy = \"".toList := by decide
  have after : '\x7b' ∉ "\")".toList := by decide
  have type : (Mapping.kotlin .manyToOneRel).type = "List<" ++ Slot.relatedModel.mark ++ ">" := rfl
  simp only [oneToManyBlock, bind_eq_ok_iff, type, fill_listType,
    Template.fill_around_eq_ok_iff before after, Slots.value?]
  constructor
  · intro h
    obtain ⟨_, ⟨peer, hp, rfl⟩, _, ⟨model, hm, rfl⟩, h⟩ := h
    exact ⟨peer, hp, model, hm, Except.ok.inj h⟩
  · intro h
    obtain ⟨peer, hp, model, hm, rfl⟩ := h
    exact ⟨_, ⟨peer, hp, rfl⟩, _, ⟨model, hm, rfl⟩, rfl⟩

section ManyToMany
variable {r : ManyToMany} {ls : List String}

theorem manyToManyAnnotations_inverse_eq_ok_iff (inverse : r.isInverse = true) :
    manyToManyAnnotations r = .ok ls ↔
      ∃ peer, r.peerField = some peer ∧ ["@ManyToMany(mappedBy = \"" ++ peer ++ "\")"] = ls := by
  have before : '\x7b' ∉ "@ManyToMany(mappedBy = \"".toList := by decide
  have after : '\x7b' ∉ "\")".toList := by decide
  simp only [manyToManyAnnotations, inverse, if_true, bind_eq_ok_iff,
    Template.fill_around_eq_ok_iff before after, Slots.value?, manyToManySlots]
  constructor
  · intro h
    obtain ⟨_, ⟨peer, hp, rfl⟩, h⟩ := h
    exact ⟨peer, hp, Except.ok.inj h⟩
  · intro h
    obtain ⟨peer, hp, rfl⟩ := h
    exact ⟨_, ⟨peer, hp, rfl⟩, rfl⟩

theorem manyToManyAnnotations_owning_eq_ok_iff (owning : r.isInverse = false) :
    manyToManyAnnotations r = .ok ls ↔
      ∃ table, r.joinTable = some table ∧ ∃ join, r.joinColumn = some join ∧
        ∃ peerJoin, r.peerJoinColumn = some peerJoin ∧ joinTableMarks table join peerJoin = ls := by
  have table : '\x7b' ∉ "name = \"".toList ∧ '\x7b' ∉ "\",".toList := by decide
  have join : '\x7b' ∉ "joinColumns = [JoinColumn(name = \"".toList ∧ '\x7b' ∉ "\")],".toList := by decide
  have inverse : '\x7b' ∉ "inverseJoinColumns = [JoinColumn(name = \"".toList ∧
      '\x7b' ∉ "\")]".toList := by decide
  simp only [manyToManyAnnotations, owning, Bool.false_eq_true, if_false, bind_eq_ok_iff,
    Template.fill_around_eq_ok_iff table.1 table.2, Template.fill_around_eq_ok_iff join.1 join.2,
    Template.fill_around_eq_ok_iff inverse.1 inverse.2, Slots.value?, manyToManySlots]
  constructor
  · intro h
    obtain ⟨_, ⟨table, ht, rfl⟩, _, ⟨join, hj, rfl⟩, _, ⟨peerJoin, hp, rfl⟩, h⟩ := h
    exact ⟨table, ht, join, hj, peerJoin, hp, Except.ok.inj h⟩
  · intro h
    obtain ⟨table, ht, join, hj, peerJoin, hp, rfl⟩ := h
    exact ⟨_, ⟨table, ht, rfl⟩, _, ⟨join, hj, rfl⟩, _, ⟨peerJoin, hp, rfl⟩, rfl⟩

theorem manyToManyBlock_eq_ok_iff :
    manyToManyBlock r = .ok ls ↔
      ∃ marks, manyToManyAnnotations r = .ok marks ∧ ∃ model, r.relatedModel = some model ∧
        marks ++ [property r.name (listOf model) false] = ls := by
  have type : (Mapping.kotlin .manyToMany).type = "List<" ++ Slot.relatedModel.mark ++ ">" := rfl
  simp only [manyToManyBlock, bind_eq_ok_iff, type, fill_listType]
  constructor
  · intro h
    obtain ⟨marks, ha, _, ⟨model, hm, rfl⟩, h⟩ := h
    exact ⟨marks, ha, model, hm, Except.ok.inj h⟩
  · intro h
    obtain ⟨marks, ha, model, hm, rfl⟩ := h
    exact ⟨marks, ha, _, ⟨model, hm, rfl⟩, rfl⟩

end ManyToMany

/-- An item has a block exactly if it declares something, and the property comes last in it. -/
theorem block_eq_ok_iff {item : Item} {ls : List String} :
    block item = .ok ls ↔
      ∃ marks type, Declares item marks type ∧ marks ++ [property item.name type item.nullable] = ls := by
  constructor
  · intro h
    cases item with
    | column c =>
      obtain ⟨value, hv, rfl⟩ := columnBlock_eq_ok_iff.mp h
      exact ⟨_, _, .column hv, rfl⟩
    | oneToOne r =>
      obtain ⟨name, model?, nullable, inverse, join?, action, peer?⟩ := r
      cases inverse with
      | true =>
        obtain ⟨peer, rfl, model, rfl, rfl⟩ := oneToOneBlock_inverse_eq_ok_iff.mp h
        exact ⟨_, _, .inverseOneToOne, List.append_assoc _ _ _⟩
      | false =>
        obtain ⟨join, rfl, model, rfl, rfl⟩ := oneToOneBlock_owning_eq_ok_iff.mp h
        exact ⟨_, _, .owningOneToOne, List.append_assoc _ _ _⟩
    | manyToOne r =>
      obtain ⟨name, model?, join, nullable, action⟩ := r
      obtain ⟨model, rfl, rfl⟩ := manyToOneBlock_eq_ok_iff.mp h
      exact ⟨_, _, .manyToOne, List.append_assoc _ _ _⟩
    | oneToMany r =>
      obtain ⟨name, model?, peer?⟩ := r
      obtain ⟨peer, rfl, model, rfl, rfl⟩ := oneToManyBlock_eq_ok_iff.mp h
      exact ⟨_, _, .oneToMany, rfl⟩
    | manyToMany r =>
      obtain ⟨name, model?, inverse, table?, join?, peerJoin?, peer?⟩ := r
      obtain ⟨marks, ha, model, rfl, rfl⟩ := manyToManyBlock_eq_ok_iff.mp h
      cases inverse with
      | true =>
        obtain ⟨peer, rfl, rfl⟩ := (manyToManyAnnotations_inverse_eq_ok_iff rfl).mp ha
        exact ⟨_, _, .inverseManyToMany, rfl⟩
      | false =>
        obtain ⟨table, rfl, join, rfl, peerJoin, rfl, rfl⟩ :=
          (manyToManyAnnotations_owning_eq_ok_iff rfl).mp ha
        exact ⟨_, _, .owningManyToMany, rfl⟩
  · intro h
    obtain ⟨marks, type, declares, rfl⟩ := h
    cases declares with
    | column hv => exact columnBlock_eq_ok_iff.mpr ⟨_, hv, rfl⟩
    | inverseOneToOne =>
      exact oneToOneBlock_inverse_eq_ok_iff.mpr ⟨_, rfl, _, rfl, (List.append_assoc _ [_] _).symm⟩
    | owningOneToOne =>
      exact oneToOneBlock_owning_eq_ok_iff.mpr ⟨_, rfl, _, rfl, (List.append_assoc _ [_, _] _).symm⟩
    | manyToOne => exact manyToOneBlock_eq_ok_iff.mpr ⟨_, rfl, (List.append_assoc _ [_, _] _).symm⟩
    | oneToMany => exact oneToManyBlock_eq_ok_iff.mpr ⟨_, rfl, _, rfl, rfl⟩
    | inverseManyToMany =>
      refine manyToManyBlock_eq_ok_iff.mpr ⟨_, ?_, _, rfl, rfl⟩
      exact (manyToManyAnnotations_inverse_eq_ok_iff rfl).mpr ⟨_, rfl, rfl⟩
    | owningManyToMany =>
      refine manyToManyBlock_eq_ok_iff.mpr ⟨_, ?_, _, rfl, rfl⟩
      exact (manyToManyAnnotations_owning_eq_ok_iff rfl).mpr ⟨_, rfl, _, rfl, _, rfl, rfl⟩

end EntityGen.Kotlin
