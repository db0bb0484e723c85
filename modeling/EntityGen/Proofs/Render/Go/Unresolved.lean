import EntityGen.Proofs.Render.Go.Complete
import EntityGen.Proofs.Render.Unresolved

/-!
How a Go struct fails to be written. `Lacks` lists the values that an item can lack, each with the slot and the template
that ask for it; where a template is filled before another, what it asks for counts first. An item fails for what it
lacks and for nothing else (`failsFor_members`), and so a struct fails for what its items lack first
(`struct_fails_for`). -/
namespace EntityGen.Go
open Template

/-- What an item lacks, for which slot of which template. A stored field lacks its length, or it is of a kind of
relations and lacks what joins them. A relation lacks its model first. The inverse side of a one-to-one relation and a
one-to-many relation have no member, and lack nothing. -/
inductive Lacks : Item → Slot → String → Prop
  | length {c : Column} : c.kind = .char → c.maxLength = none →
    Lacks (.column c) .maxLength ("type:varchar(" ++ Slot.maxLength.mark ++ ")")
  | columnKey {c : Column} : c.kind ∈ [.foreignKey, .manyToOneRel, .oneToOne, .oneToOneRel] →
    Lacks (.column c) .joinColumn ("foreignKey:" ++ Slot.joinColumn.mark)
  | columnTable {c : Column} : c.kind ∈ [.manyToMany, .manyToManyRel] →
    Lacks (.column c) .joinTable ("many2many:" ++ Slot.joinTable.mark)
  | oneToOneModel {name : String} {nullable : Bool} {join action peer : Option String} :
    Lacks (.oneToOne ⟨name, none, nullable, false, join, action, peer⟩) .relatedModel Slot.relatedModel.mark
  | oneToOneKey {name model : String} {nullable : Bool} {action peer : Option String} :
    Lacks (.oneToOne ⟨name, some model, nullable, false, none, action, peer⟩) .joinColumn
      ("foreignKey:" ++ Slot.joinColumn.mark)
  | manyToOneModel {name join : String} {nullable : Bool} {action : Option String} :
    Lacks (.manyToOne ⟨name, none, join, nullable, action⟩) .relatedModel Slot.relatedModel.mark
  | manyToManyModel {name : String} {inverse : Bool} {table join peerJoin peer : Option String} :
    Lacks (.manyToMany ⟨name, none, inverse, table, join, peerJoin, peer⟩) .relatedModel
      ("[]*" ++ Slot.relatedModel.mark)
  | inversePeer {name model : String} {table join peerJoin : Option String} :
    Lacks (.manyToMany ⟨name, some model, true, table, join, peerJoin, none⟩) .peerField backReference
  | owningTable {name model : String} {join peerJoin peer : Option String} :
    Lacks (.manyToMany ⟨name, some model, false, none, join, peerJoin, peer⟩) .joinTable
      ("many2many:" ++ Slot.joinTable.mark)

/-! ### One item -/

section Kinds
variable {kind : Kind}

theorem relation_cases (relational : kind.isRelation = true) :
    kind ∈ [.foreignKey, .manyToOneRel, .oneToOne, .oneToOneRel] ∨ kind ∈ [.manyToMany, .manyToManyRel] := by
  revert relational
  cases kind <;> decide

theorem mapping_of_mem_references (h : kind ∈ [.foreignKey, .manyToOneRel, .oneToOne, .oneToOneRel]) :
    Mapping.go kind = Mapping.reference := by
  revert h
  cases kind <;> decide

theorem mapping_of_mem_tables (h : kind ∈ [.manyToMany, .manyToManyRel]) :
    Mapping.go kind = Mapping.go .manyToMany := by
  revert h
  cases kind <;> decide

end Kinds

section Templates
variable {slots : Slots} {field : String}

theorem filled_length_of_none (none : slots.maxLength = none) :
    filled (Mapping.go .char).storage slots field =
      .error (.unresolvedSlot field Slot.maxLength.name ("type:varchar(" ++ Slot.maxLength.mark ++ ")")) :=
  map_eq_error_iff.mpr (fill_around_of_none (by decide) (by rw [Slots.value?, none, Option.map_none]))

theorem filled_key_of_none (none : slots.joinColumn = none) :
    filled Mapping.reference.storage slots field =
      .error (.unresolvedSlot field Slot.joinColumn.name ("foreignKey:" ++ Slot.joinColumn.mark)) :=
  map_eq_error_iff.mpr (fill_last_of_none (by decide) none)

theorem filled_table_of_none (none : slots.joinTable = none) :
    filled (Mapping.go .manyToMany).storage slots field =
      .error (.unresolvedSlot field Slot.joinTable.name ("many2many:" ++ Slot.joinTable.mark)) :=
  map_eq_error_iff.mpr (fill_last_of_none (by decide) none)

theorem fill_listType_of_none (none : slots.relatedModel = none) :
    fill (Mapping.go .manyToMany).type slots field =
      .error (.unresolvedSlot field Slot.relatedModel.name ("[]*" ++ Slot.relatedModel.mark)) :=
  fill_last_of_none (by decide) none

theorem fill_listType_of_some {model : String} (some : slots.relatedModel = some model) :
    fill (Mapping.go .manyToMany).type slots field = .ok ("[]*" ++ model) :=
  (fill_last_eq_ok_iff (by decide)).mpr ⟨model, some, rfl⟩

/-- The comment of an inverse side asks for the model first. If it has that, it can fail for the other side's field. -/
theorem fill_backReference_of_none (model : slots.relatedModel.isSome) (none : slots.peerField = none) :
    fill backReference slots field = .error (.unresolvedSlot field Slot.peerField.name backReference) := by
  have cut : backReference =
      "// back-reference to " ++ Slot.relatedModel.mark ++ ("." ++ Slot.peerField.mark) :=
    String.append_assoc
  have peer : fillPieces slots (pieces ("." ++ Slot.peerField.mark)) = .error Slot.peerField.name :=
    fillPieces_last_of_none (by decide) none
  refine fill_eq_error_iff.mpr ⟨_, ?_, rfl⟩
  rw [cut]
  exact (fillPieces_mark_eq_error_iff (by decide)).mpr (.inr ⟨model, peer⟩)

end Templates

theorem outcome_column (className : String) (c : Column) :
    (members className (.column c)).outcome = (columnMember c).map ([·]) := rfl

theorem outcome_manyToMany (className : String) (r : ManyToMany) :
    (members className (.manyToMany r)).outcome = (manyToManyMember r).map ([·]) := rfl

/-- An item that lacks a value is filled in up to the template that asks for it, and fails there. -/
theorem Lacks.unresolved {item : Item} {slot : Slot} {template : String} (h : Lacks item slot template)
    (className : String) :
    (members className item).outcome = .error (.unresolvedSlot item.name slot.name template) := by
  cases h with
  -- A stored field fails before its type is looked at: what the storage asks for is filled in first.
  | @length c char unbounded =>
    rw [outcome_column, map_eq_error_iff, columnMember, char]
    exact bind_of_error (filled_length_of_none unbounded) _
  | @columnKey c reference =>
    rw [outcome_column, map_eq_error_iff, columnMember, mapping_of_mem_references reference]
    exact bind_of_error (filled_key_of_none rfl) _
  | @columnTable c table =>
    rw [outcome_column, map_eq_error_iff, columnMember, mapping_of_mem_tables table]
    exact bind_of_error (filled_table_of_none rfl) _
  -- A relation has its type filled in first, so it is the model that counts.
  | oneToOneModel => exact bind_of_error (fill_alone_of_none rfl) _
  | oneToOneKey =>
    refine (bind_of_ok (fill_alone_eq_ok_iff.mpr rfl) _).trans ?_
    exact bind_of_error (filled_key_of_none rfl) _
  | manyToOneModel => exact bind_of_error (fill_alone_of_none rfl) _
  | @manyToManyModel name inverse =>
    rw [outcome_manyToMany, map_eq_error_iff]
    cases inverse with
    | true => exact bind_of_error (fill_listType_of_none rfl) _
    | false => exact bind_of_error (fill_listType_of_none rfl) _
  | inversePeer =>
    rw [outcome_manyToMany, map_eq_error_iff]
    refine (bind_of_ok (fill_listType_of_some rfl) _).trans ?_
    exact bind_of_error (fill_backReference_of_none rfl rfl) _
  | owningTable =>
    rw [outcome_manyToMany, map_eq_error_iff]
    refine (bind_of_ok (fill_listType_of_some rfl) _).trans ?_
    exact bind_of_error (filled_table_of_none rfl) _

/-- An item has all that its members ask for, or it lacks something. -/
theorem complete_or_lacks (item : Item) : Complete item ∨ ∃ slot template, Lacks item slot template := by
  cases item with
  | column c =>
    cases relational : c.kind.isRelation with
    | true =>
      rcases relation_cases relational with reference | table
      · exact .inr ⟨_, _, .columnKey reference⟩
      · exact .inr ⟨_, _, .columnTable table⟩
    | false =>
      cases length : c.maxLength with
      | some max => exact .inl ⟨relational, fun _ => length ▸ rfl⟩
      | none =>
        by_cases char : c.kind = .char
        · exact .inr ⟨_, _, .length char length⟩
        · exact .inl ⟨relational, fun h => absurd h char⟩
  | oneToOne r =>
    obtain ⟨name, model?, nullable, inverse, join?, action, peer?⟩ := r
    cases inverse with
    | true => exact .inl trivial
    | false =>
      cases model? with
      | none => exact .inr ⟨_, _, .oneToOneModel⟩
      | some model =>
        cases join? with
        | none => exact .inr ⟨_, _, .oneToOneKey⟩
        | some join => exact .inl ⟨rfl, rfl⟩
  | manyToOne r =>
    obtain ⟨name, model?, join, nullable, action⟩ := r
    cases model? with
    | none => exact .inr ⟨_, _, .manyToOneModel⟩
    | some model => exact .inl rfl
  | oneToMany r => exact .inl trivial
  | manyToMany r =>
    obtain ⟨name, model?, inverse, table?, join?, peerJoin?, peer?⟩ := r
    cases model? with
    | none => exact .inr ⟨_, _, .manyToManyModel⟩
    | some model =>
      cases inverse with
      | true =>
        cases peer? with
        | none => exact .inr ⟨_, _, .inversePeer⟩
        | some peer => exact .inl ⟨rfl, rfl⟩
      | false =>
        cases table? with
        | none => exact .inr ⟨_, _, .owningTable⟩
        | some table => exact .inl ⟨rfl, rfl⟩

theorem failsFor_members (className : String) : FailsFor Lacks fun item => (members className item).outcome :=
  failsFor_of_complete (fun lacks => lacks.unresolved className)
    fun item => (complete_or_lacks item).imp_left exists_members_iff.mpr

theorem exists_lacks_iff {item : Item} : (∃ slot template, Lacks item slot template) ↔ ¬Complete item := by
  rw [(failsFor_members "").exists_lacks_iff, exists_members_iff]

section Records
variable {name : String} {model? join? peer? : Option String} {inverse : Bool}

/-- Of the record of a one-to-one relation, only the attributes of its own side are asked for. -/
theorem exists_lacks_oneToOne_iff {nullable : Bool} {action? : Option String} :
    (∃ slot template,
      Lacks (.oneToOne ⟨name, model?, nullable, inverse, join?, action?, peer?⟩) slot template) ↔
        inverse = false ∧ (model? = none ∨ join? = none) := by
  rw [exists_lacks_iff]
  cases inverse with
  | true => exact iff_of_false (not_not_intro trivial) nofun
  | false =>
    show ¬(model?.isSome ∧ join?.isSome) ↔ _
    simp only [not_and_or, Option.not_isSome_iff_eq_none, true_and]

theorem exists_lacks_manyToMany_iff {table? peerJoin? : Option String} :
    (∃ slot template,
      Lacks (.manyToMany ⟨name, model?, inverse, table?, join?, peerJoin?, peer?⟩) slot template) ↔
        model? = none ∨ if inverse then peer? = none else table? = none := by
  rw [exists_lacks_iff]
  cases inverse with
  | true =>
    show ¬(model?.isSome ∧ peer?.isSome) ↔ model? = none ∨ peer? = none
    simp only [not_and_or, Option.not_isSome_iff_eq_none]
  | false =>
    show ¬(model?.isSome ∧ table?.isSome) ↔ model? = none ∨ table? = none
    simp only [not_and_or, Option.not_isSome_iff_eq_none]

end Records

/-! ### The struct -/

/-- **What a struct fails for.** It fails exactly if one of the items lacks a value, and then for the value that is
lacked by the first of these items in the order of writing, whichever tags are asked for. A one-to-many relation never
lacks anything. Whatever the record of a relation with two sides has of the other side, the inverse side of a one-to-one
relation lacks nothing, and any other side lacks something exactly if it has no model, or not what its own side asks
for. -/
theorem struct_fails_for (options : Options) (e : Entity) :
    ((∃ error, (render options e).outcome = .error error) ↔
      ∃ item ∈ e.items, ∃ slot template, Lacks item slot template) ∧
    (∀ error, (render options e).outcome = .error error ↔
      ∃ item slot template, e.LacksFirst Lacks item slot template ∧
        error = .unresolvedSlot item.name slot.name template) ∧
    (∀ r slot template, ¬Lacks (.oneToMany r) slot template) ∧
    (∀ name model? nullable inverse join? action? peer?,
      (∃ slot template,
        Lacks (.oneToOne ⟨name, model?, nullable, inverse, join?, action?, peer?⟩) slot template) ↔
          inverse = false ∧ (model? = none ∨ join? = none)) ∧
    ∀ name model? inverse table? join? peerJoin? peer?,
      (∃ slot template,
        Lacks (.manyToMany ⟨name, model?, inverse, table?, join?, peerJoin?, peer?⟩) slot template) ↔
          model? = none ∨ if inverse then peer? = none else table? = none := by
  rw [outcome_render]
  have items := failsFor_members e.className
  refine ⟨items.exists_run_eq_error_iff, fun _ => items.run_eq_error_iff, fun _ _ _ => nofun, ?_, ?_⟩
  · intros
    exact exists_lacks_oneToOne_iff
  · intros
    exact exists_lacks_manyToMany_iff

/-- The title has its length and nothing is written for the origin of a draft, so its cover is the first to fail. -/
theorem struct_fails_for_cover :
    (¬∃ slot template, Lacks (.oneToOne ⟨"origin", none, true, true, none, none, none⟩) slot template) ∧
      (render {} Entity.draft).outcome =
        .error (.unresolvedSlot "cover" "join_column" "foreignKey:\x7bjoin_column\x7d") := by
  obtain ⟨-, first, -, oneToOne, -⟩ := struct_fails_for {} Entity.draft
  have origin := mt (oneToOne "origin" none true true none none none).mp nofun
  refine ⟨origin, (first _).mpr ⟨_, .joinColumn, _, ⟨[_, _], _, rfl, ?_, .oneToOneKey⟩, rfl⟩⟩
  intro earlier there
  rcases List.mem_pair.mp there with rfl | rfl
  · exact (failsFor_members "Draft").passes_iff.mp ⟨_, rfl⟩
  · exact fun slot template lacks => origin ⟨slot, template, lacks⟩

end EntityGen.Go
