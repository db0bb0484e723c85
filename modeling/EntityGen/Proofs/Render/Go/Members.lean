import EntityGen.Proofs.Template
import EntityGen.Render.Go

/-!
The members that the items of an entity become. `Declares` says for every shape of item which they are, and
`declares_of_members` that the renderer has no others. An item without members is told of instead
(`events_members`), so that an item is declared or told of and never both (`Declares.eq_nil_iff`). -/
namespace EntityGen.Go
open Text

/-! ### Which members -/

/-- How the action on deletion is told to the storage. -/
def actionTag (action : String) : String :=
  "constraint:OnDelete:" ++ action.map fun c => if c = '_' then ' ' else c

/-- The member for the column that holds the key of a reference. -/
def keyMember (joinColumn : String) (storage : List String) : Member :=
  .tagged (Identifier.go joinColumn) "uint32" storage []

/-- The member for a reference itself, which points to the member of its key. -/
def relationMember (name model joinColumn : String) (nullable : Bool) (action : Option String) : Member :=
  .tagged (Identifier.go name) model
    (["foreignKey:" ++ Identifier.go joinColumn] ++ (action.map actionTag).toList ++
      onlyIf (!nullable) "not null") []

/-- The members of an item: a stored field is one, a reference that is held here is preceded by the column
of its key, the other side of a reference is none, and a relation to many on both sides is one. -/
inductive Declares : Item → List Member → Prop
  | column {c : Column} {type : String} {storage validation : List String} :
    Declares (.column c) [.tagged (Identifier.go c.name) type storage validation]
  | owningOneToOne {name model join : String} {nullable : Bool} {action peer : Option String} :
    Declares (.oneToOne ⟨name, some model, nullable, false, some join, action, peer⟩)
      [keyMember join ["index", "unique"], relationMember name model join nullable action]
  | inverseOneToOne {name : String} {model join action peer : Option String} {nullable : Bool} :
    Declares (.oneToOne ⟨name, model, nullable, true, join, action, peer⟩) []
  | manyToOne {name model join : String} {nullable : Bool} {action : Option String} :
    Declares (.manyToOne ⟨name, some model, join, nullable, action⟩)
      [keyMember join ["index"], relationMember name model join nullable action]
  | oneToMany {r : OneToMany} : Declares (.oneToMany r) []
  | owningManyToMany {name model table : String} {join peerJoin peer : Option String} :
    Declares (.manyToMany ⟨name, some model, false, some table, join, peerJoin, peer⟩)
      [.tagged (Identifier.go name) ("[]*" ++ model) ["many2many:" ++ table] []]
  | inverseManyToMany {name model peer : String} {table join peerJoin : Option String} :
    Declares (.manyToMany ⟨name, some model, true, table, join, peerJoin, some peer⟩)
      [.commented (Identifier.go name) ("[]*" ++ model)
        ("// back-reference to " ++ model ++ "." ++ Identifier.go peer)]

theorem filled_some {template : String} {slots : Slots} {field : String} :
    filled (some template) slots field = (Template.fill template slots field).map ([·]) := rfl

theorem columnMember_eq_ok_iff {c : Column} {m : Member} :
    columnMember c = .ok m ↔
      let slots : Slots := { column := some c.column, maxLength := c.maxLength }
      ∃ storage, filled (Mapping.go c.kind).storage slots c.name = .ok storage ∧
      ∃ validation, filled (Mapping.go c.kind).validation slots c.name = .ok validation ∧
      ∃ type, Template.fill (Mapping.go c.kind).type slots c.name = .ok type ∧
      .tagged (Identifier.go c.name) type (storage ++ columnStorage c)
        (validation ++ columnValidation c) = m := by
  simp only [columnMember, bind_eq_ok_iff]
  simp only [pure, Except.pure, Except.ok.injEq]

/-- A reference needs the related model and the column of the key, and nothing else. -/
theorem referenceMembers_eq_ok_iff {kind : Kind} (hk : Mapping.go kind = Mapping.reference) {name : String}
    {model? join? : Option String} {nullable : Bool} {action : Option String} {ms : List Member} :
    referenceMembers kind name model? join? nullable action = .ok ms ↔
      ∃ model, model? = some model ∧ ∃ join, join? = some join ∧
        [keyMember join ("index" :: onlyIf (kind == .oneToOne) "unique"),
         relationMember name model join nullable action] = ms := by
  have unbraced : '\x7b' ∉ "foreignKey:".toList := by decide
  simp only [referenceMembers, bind_eq_ok_iff, hk, Mapping.reference, filled_some, map_eq_ok_iff,
    Template.fill_alone_eq_ok_iff, Template.fill_last_eq_ok_iff unbraced, Slots.value?]
  constructor
  · intro h
    obtain ⟨model, hm, storage, ⟨text, ⟨join, hj, rfl⟩, rfl⟩, column, hc, h⟩ := h
    obtain ⟨joinColumn, rfl, rfl⟩ := Option.map_eq_some_iff.mp hj
    cases hc
    exact ⟨model, hm, joinColumn, rfl, Except.ok.inj h⟩
  · intro h
    obtain ⟨model, hm, join, rfl, rfl⟩ := h
    exact ⟨model, hm, _, ⟨_, ⟨Identifier.go join, rfl, rfl⟩, rfl⟩, Identifier.go join, rfl, rfl⟩

section ManyToMany
variable {name : String} {model? table? join? peerJoin? peer? : Option String} {m : Member}

/-- The field of the other side is not asked for here. -/
theorem manyToManyMember_owning_eq_ok_iff :
    manyToManyMember ⟨name, model?, false, table?, join?, peerJoin?, peer?⟩ = .ok m ↔
      ∃ model, model? = some model ∧ ∃ table, table? = some table ∧
        .tagged (Identifier.go name) ("[]*" ++ model) ["many2many:" ++ table] [] = m := by
  have list : '\x7b' ∉ "[]*".toList := by decide
  have through : '\x7b' ∉ "many2many:".toList := by decide
  simp only [manyToManyMember, Bool.false_eq_true, if_false, bind_eq_ok_iff, Mapping.go, filled_some,
    map_eq_ok_iff, Template.fill_last_eq_ok_iff list, Template.fill_last_eq_ok_iff through, Slots.value?]
  constructor
  · intro h
    obtain ⟨_, ⟨model, hm, rfl⟩, _, ⟨_, ⟨table, ht, rfl⟩, rfl⟩, h⟩ := h
    exact ⟨model, hm, table, ht, Except.ok.inj h⟩
  · intro h
    obtain ⟨model, hm, table, ht, rfl⟩ := h
    exact ⟨_, ⟨model, hm, rfl⟩, _, ⟨_, ⟨table, ht, rfl⟩, rfl⟩, rfl⟩

theorem fill_backReference_eq_ok_iff {slots : Slots} {field text : String} :
    Template.fill backReference slots field = .ok text ↔
      ∃ model, slots.relatedModel = some model ∧ ∃ peer, slots.peerField = some peer ∧
        "// back-reference to " ++ model ++ "." ++ peer = text := by
  have cut : backReference =
      "// back-reference to " ++ Slot.relatedModel.mark ++ ("." ++ Slot.peerField.mark) :=
    String.append_assoc
  have comment : '\x7b' ∉ "// back-reference to ".toList := by decide
  have point : '\x7b' ∉ ".".toList := by decide
  rw [cut, Template.fill_mark_eq_ok_iff comment]
  simp only [Template.fill_last_eq_ok_iff point, Slots.value?]
  constructor
  · intro h
    obtain ⟨model, hm, _, ⟨peer, hp, rfl⟩, rfl⟩ := h
    exact ⟨model, hm, peer, hp, by simp only [String.append_assoc]⟩
  · intro h
    obtain ⟨model, hm, peer, hp, rfl⟩ := h
    exact ⟨model, hm, _, ⟨peer, hp, rfl⟩, by simp only [String.append_assoc]⟩

/-- Nor are the table and its columns here. -/
theorem manyToManyMember_inverse_eq_ok_iff :
    manyToManyMember ⟨name, model?, true, table?, join?, peerJoin?, peer?⟩ = .ok m ↔
      ∃ model, model? = some model ∧ ∃ peer, peer? = some peer ∧
        .commented (Identifier.go name) ("[]*" ++ model)
          ("// back-reference to " ++ model ++ "." ++ Identifier.go peer) = m := by
  have list : '\x7b' ∉ "[]*".toList := by decide
  simp only [manyToManyMember, if_true, bind_eq_ok_iff, Mapping.go, fill_backReference_eq_ok_iff,
    Template.fill_last_eq_ok_iff list, Slots.value?]
  constructor
  · intro h
    obtain ⟨_, ⟨model, hm, rfl⟩, _, ⟨model', hm', peer', hp, rfl⟩, h⟩ := h
    obtain ⟨peer, rfl, rfl⟩ := Option.map_eq_some_iff.mp hp
    cases hm.symm.trans hm'
    exact ⟨model, hm, peer, rfl, Except.ok.inj h⟩
  · intro h
    obtain ⟨model, hm, peer, rfl, rfl⟩ := h
    exact ⟨_, ⟨model, hm, rfl⟩, _, ⟨model, hm, Identifier.go peer, rfl, rfl⟩, rfl⟩

end ManyToMany

/-- The renderer has no other members. -/
theorem declares_of_members {className : String} {item : Item} {ms : List Member}
    (h : (members className item).outcome = .ok ms) : Declares item ms := by
  cases item with
  | column c =>
    obtain ⟨m, hm, rfl⟩ := map_eq_ok_iff.mp h
    obtain ⟨storage, -, validation, -, type, -, rfl⟩ := columnMember_eq_ok_iff.mp hm
    exact .column
  | oneToOne r =>
    obtain ⟨name, model?, nullable, inverse, join?, action, peer?⟩ := r
    cases inverse with
    | true =>
      cases h
      exact .inverseOneToOne
    | false =>
      obtain ⟨model, rfl, join, rfl, rfl⟩ := (referenceMembers_eq_ok_iff rfl).mp h
      exact .owningOneToOne
  | manyToOne r =>
    obtain ⟨name, model?, join, nullable, action⟩ := r
    obtain ⟨model, rfl, _, hj, rfl⟩ := (referenceMembers_eq_ok_iff rfl).mp h
    cases hj
    exact .manyToOne
  | oneToMany r =>
    cases h
    exact .oneToMany
  | manyToMany r =>
    obtain ⟨name, model?, inverse, table?, join?, peerJoin?, peer?⟩ := r
    obtain ⟨m, hm, rfl⟩ := map_eq_ok_iff.mp h
    cases inverse with
    | false =>
      obtain ⟨model, rfl, table, rfl, rfl⟩ := manyToManyMember_owning_eq_ok_iff.mp hm
      exact .owningManyToMany
    | true =>
      obtain ⟨model, rfl, peer, rfl, rfl⟩ := manyToManyMember_inverse_eq_ok_iff.mp hm
      exact .inverseManyToMany

/-! ### Items without members -/

/-- What is told of an item instead of declaring it. -/
def implied? (className : String) : Item → Option Event
  | .oneToOne r => if r.isInverse then some (.impliedOneToOne r.name) else none
  | .oneToMany r => some (.impliedOneToMany className r.name)
  | _ => none

theorem events_members (className : String) (item : Item) :
    (members className item).events = (implied? className item).toList := by
  cases item with
  | oneToOne r =>
    obtain ⟨name, model?, nullable, inverse, join?, action, peer?⟩ := r
    cases inverse <;> rfl
  | _ => rfl

/-- An item is told of exactly if it has no members. -/
theorem Declares.eq_nil_iff {item : Item} {ms : List Member} (h : Declares item ms) (className : String) :
    ms = [] ↔ (implied? className item).isSome = true := by
  cases h <;> simp [implied?]

end EntityGen.Go
