import EntityGen.Proofs.Render.Kotlin.Complete
import EntityGen.Proofs.Render.Unresolved

/-!
How a Kotlin class fails to be written. `Lacks` lists the values that an item can lack, each with the slot and the
template that ask for it; where a template is filled before another, what it asks for counts first. An item fails for
what it lacks and for nothing else (`failsFor_block`), and so a class fails for what its items lack first
(`class_fails_for`). -/
namespace EntityGen.Kotlin
open Template

/-- What an item lacks, for which slot of which template. A stored field can only be of a kind of relations, which lacks
its model. A relation lacks first what ties it to the other side, and its model last. The two columns of a table that
joins two entities go by the same slot. -/
inductive Lacks : Item → Slot → String → Prop
  | columnModel {c : Column} : c.kind ∈ [.foreignKey, .oneToOne, .oneToOneRel] →
    Lacks (.column c) .relatedModel Slot.relatedModel.mark
  | columnModels {c : Column} : c.kind ∈ [.manyToOneRel, .manyToMany, .manyToManyRel] →
    Lacks (.column c) .relatedModel ("List<" ++ Slot.relatedModel.mark ++ ">")
  | oneToOnePeer {name : String} {model join action : Option String} {nullable : Bool} :
    Lacks (.oneToOne ⟨name, model, nullable, true, join, action, none⟩) .peerField
      ("mappedBy = \"" ++ Slot.peerField.mark ++ "\"")
  | inverseOneToOneModel {name peer : String} {nullable : Bool} {join action : Option String} :
    Lacks (.oneToOne ⟨name, none, nullable, true, join, action, some peer⟩) .relatedModel Slot.relatedModel.mark
  | oneToOneKey {name : String} {model action peer : Option String} {nullable : Bool} :
    Lacks (.oneToOne ⟨name, model, nullable, false, none, action, peer⟩) .joinColumn
      ("@JoinColumn(name = \"" ++ Slot.joinColumn.mark ++ "\")")
  | owningOneToOneModel {name join : String} {nullable : Bool} {action peer : Option String} :
    Lacks (.oneToOne ⟨name, none, nullable, false, some join, action, peer⟩) .relatedModel Slot.relatedModel.mark
  | manyToOneModel {name join : String} {nullable : Bool} {action : Option String} :
    Lacks (.manyToOne ⟨name, none, join, nullable, action⟩) .relatedModel Slot.relatedModel.mark
  | oneToManyPeer {name : String} {model : Option String} :
    Lacks (.oneToMany ⟨name, model, none⟩) .peerField ("@OneToMany(mappedBy = \"" ++ Slot.peerField.mark ++ "\")")
  | oneToManyModel {name peer : String} :
    Lacks (.oneToMany ⟨name, none, some peer⟩) .relatedModel ("List<" ++ Slot.relatedModel.mark ++ ">")
  | manyToManyPeer {name : String} {model table join peerJoin : Option String} :
    Lacks (.manyToMany ⟨name, model, true, table, join, peerJoin, none⟩) .peerField
      ("@ManyToMany(mappedBy = \"" ++ Slot.peerField.mark ++ "\")")
  | inverseManyToManyModel {name peer : String} {table join peerJoin : Option String} :
    Lacks (.manyToMany ⟨name, none, true, table, join, peerJoin, some peer⟩) .relatedModel
      ("List<" ++ Slot.relatedModel.mark ++ ">")
  | table {name : String} {model join peerJoin peer : Option String} :
    Lacks (.manyToMany ⟨name, model, false, none, join, peerJoin, peer⟩) .joinTable
      ("name = \"" ++ Slot.joinTable.mark ++ "\",")
  | tableColumn {name table : String} {model peerJoin peer : Option String} :
    Lacks (.manyToMany ⟨name, model, false, some table, none, peerJoin, peer⟩) .joinColumn
      ("joinColumns = [JoinColumn(name = \"" ++ Slot.joinColumn.mark ++ "\")],")
  | tablePeerColumn {name table join : String} {model peer : Option String} :
    Lacks (.manyToMany ⟨name, model, false, some table, some join, none, peer⟩) .joinColumn
      ("inverseJoinColumns = [JoinColumn(name = \"" ++ Slot.joinColumn.mark ++ "\")]")
  | owningManyToManyModel {name table join peerJoin : String} {peer : Option String} :
    Lacks (.manyToMany ⟨name, none, false, some table, some join, some peerJoin, peer⟩) .relatedModel
      ("List<" ++ Slot.relatedModel.mark ++ ">")

/-! ### One item -/

section Kinds
variable {kind : Kind}

theorem relation_cases (relational : kind.isRelation = true) :
    kind ∈ [.foreignKey, .oneToOne, .oneToOneRel] ∨ kind ∈ [.manyToOneRel, .manyToMany, .manyToManyRel] := by
  revert relational
  cases kind <;> decide

theorem mapping_of_mem_singles (h : kind ∈ [.foreignKey, .oneToOne, .oneToOneRel]) :
    Mapping.kotlin kind = Mapping.kotlin .foreignKey := by
  revert h
  cases kind <;> decide

theorem mapping_of_mem_lists (h : kind ∈ [.manyToOneRel, .manyToMany, .manyToManyRel]) :
    Mapping.kotlin kind = Mapping.kotlin .manyToMany := by
  revert h
  cases kind <;> decide

end Kinds

/-- An item that lacks a value is filled in up to the template that asks for it, and fails there. -/
theorem Lacks.unresolved {item : Item} {slot : Slot} {template : String} (h : Lacks item slot template) :
    block item = .error (.unresolvedSlot item.name slot.name template) := by
  cases h with
  | @columnModel c single =>
    show columnBlock c = _
    rw [columnBlock, mapping_of_mem_singles single]
    exact bind_of_error (fill_alone_of_none rfl) _
  | @columnModels c list =>
    show columnBlock c = _
    rw [columnBlock, mapping_of_mem_lists list]
    exact bind_of_error (fill_around_of_none (by decide) rfl) _
  -- The annotations of a relation are filled in before its type, so the model counts last.
  | oneToOnePeer => exact bind_of_error (fill_around_of_none (by decide) rfl) _
  | inverseOneToOneModel =>
    refine (bind_of_ok (fill_around_of_some (by decide) (by decide) rfl) _).trans ?_
    exact bind_of_error (fill_alone_of_none rfl) _
  | oneToOneKey => exact bind_of_error (fill_around_of_none (by decide) rfl) _
  | owningOneToOneModel =>
    refine (bind_of_ok (fill_around_of_some (by decide) (by decide) rfl) _).trans ?_
    exact bind_of_error (fill_alone_of_none rfl) _
  | manyToOneModel => exact bind_of_error (fill_alone_of_none rfl) _
  | oneToManyPeer => exact bind_of_error (fill_around_of_none (by decide) rfl) _
  | oneToManyModel =>
    refine (bind_of_ok (fill_around_of_some (by decide) (by decide) rfl) _).trans ?_
    exact bind_of_error (fill_around_of_none (by decide) rfl) _
  | manyToManyPeer => exact bind_of_error (bind_of_error (fill_around_of_none (by decide) rfl) _) _
  | inverseManyToManyModel =>
    refine (bind_of_ok ((manyToManyAnnotations_inverse_eq_ok_iff rfl).mpr ⟨_, rfl, rfl⟩) _).trans ?_
    exact bind_of_error (fill_around_of_none (by decide) rfl) _
  | table => exact bind_of_error (bind_of_error (fill_around_of_none (by decide) rfl) _) _
  | tableColumn =>
    refine bind_of_error ((bind_of_ok (fill_around_of_some (by decide) (by decide) rfl) _).trans ?_) _
    exact bind_of_error (fill_around_of_none (by decide) rfl) _
  | tablePeerColumn =>
    refine bind_of_error ((bind_of_ok (fill_around_of_some (by decide) (by decide) rfl) _).trans ?_) _
    refine (bind_of_ok (fill_around_of_some (by decide) (by decide) rfl) _).trans ?_
    exact bind_of_error (fill_around_of_none (by decide) rfl) _
  | @owningManyToManyModel name table join peerJoin peer =>
    have joined : manyToManyAnnotations ⟨name, none, false, some table, some join, some peerJoin, peer⟩ =
        .ok (joinTableMarks table join peerJoin) :=
      (manyToManyAnnotations_owning_eq_ok_iff rfl).mpr ⟨table, rfl, join, rfl, peerJoin, rfl, rfl⟩
    refine (bind_of_ok joined _).trans ?_
    exact bind_of_error (fill_around_of_none (by decide) rfl) _

/-- An item has all that its block asks for, or it lacks something. -/
theorem complete_or_lacks (item : Item) : Complete item ∨ ∃ slot template, Lacks item slot template := by
  cases item with
  | column c =>
    cases relational : c.kind.isRelation with
    | false => exact .inl relational
    | true =>
      rcases relation_cases relational with single | list
      · exact .inr ⟨_, _, .columnModel single⟩
      · exact .inr ⟨_, _, .columnModels list⟩
  | oneToOne r =>
    obtain ⟨name, model?, nullable, inverse, join?, action, peer?⟩ := r
    cases inverse with
    | true =>
      cases peer? with
      | none => exact .inr ⟨_, _, .oneToOnePeer⟩
      | some peer =>
        cases model? with
        | none => exact .inr ⟨_, _, .inverseOneToOneModel⟩
        | some model => exact .inl ⟨rfl, rfl⟩
    | false =>
      cases join? with
      | none => exact .inr ⟨_, _, .oneToOneKey⟩
      | some join =>
        cases model? with
        | none => exact .inr ⟨_, _, .owningOneToOneModel⟩
        | some model => exact .inl ⟨rfl, rfl⟩
  | manyToOne r =>
    obtain ⟨name, model?, join, nullable, action⟩ := r
    cases model? with
    | none => exact .inr ⟨_, _, .manyToOneModel⟩
    | some model => exact .inl rfl
  | oneToMany r =>
    obtain ⟨name, model?, peer?⟩ := r
    cases peer? with
    | none => exact .inr ⟨_, _, .oneToManyPeer⟩
    | some peer =>
      cases model? with
      | none => exact .inr ⟨_, _, .oneToManyModel⟩
      | some model => exact .inl ⟨rfl, rfl⟩
  | manyToMany r =>
    obtain ⟨name, model?, inverse, table?, join?, peerJoin?, peer?⟩ := r
    cases inverse with
    | true =>
      cases peer? with
      | none => exact .inr ⟨_, _, .manyToManyPeer⟩
      | some peer =>
        cases model? with
        | none => exact .inr ⟨_, _, .inverseManyToManyModel⟩
        | some model => exact .inl ⟨rfl, rfl⟩
    | false =>
      cases table? with
      | none => exact .inr ⟨_, _, .table⟩
      | some table =>
        cases join? with
        | none => exact .inr ⟨_, _, .tableColumn⟩
        | some join =>
          cases peerJoin? with
          | none => exact .inr ⟨_, _, .tablePeerColumn⟩
          | some peerJoin =>
            cases model? with
            | none => exact .inr ⟨_, _, .owningManyToManyModel⟩
            | some model => exact .inl ⟨rfl, rfl, rfl, rfl⟩

theorem failsFor_block : FailsFor Lacks block :=
  failsFor_of_complete Lacks.unresolved fun item => (complete_or_lacks item).imp_left exists_block_iff.mpr

theorem exists_lacks_iff {item : Item} : (∃ slot template, Lacks item slot template) ↔ ¬Complete item := by
  rw [failsFor_block.exists_lacks_iff, exists_block_iff]

section Records
variable {name : String} {model? join? peer? : Option String} {inverse : Bool}

/-- Of the record of a one-to-one relation, only the attributes of its own side are asked for. -/
theorem exists_lacks_oneToOne_iff {nullable : Bool} {action? : Option String} :
    (∃ slot template,
      Lacks (.oneToOne ⟨name, model?, nullable, inverse, join?, action?, peer?⟩) slot template) ↔
        (if inverse then peer? = none else join? = none) ∨ model? = none := by
  rw [exists_lacks_iff]
  cases inverse with
  | true =>
    show ¬(model?.isSome ∧ peer?.isSome) ↔ peer? = none ∨ model? = none
    simp only [not_and_or, Option.not_isSome_iff_eq_none, or_comm]
  | false =>
    show ¬(model?.isSome ∧ join?.isSome) ↔ join? = none ∨ model? = none
    simp only [not_and_or, Option.not_isSome_iff_eq_none, or_comm]

theorem exists_lacks_manyToMany_iff {table? peerJoin? : Option String} :
    (∃ slot template,
      Lacks (.manyToMany ⟨name, model?, inverse, table?, join?, peerJoin?, peer?⟩) slot template) ↔
        (if inverse then peer? = none else table? = none ∨ join? = none ∨ peerJoin? = none) ∨ model? = none := by
  rw [exists_lacks_iff]
  cases inverse with
  | true =>
    show ¬(model?.isSome ∧ peer?.isSome) ↔ peer? = none ∨ model? = none
    simp only [not_and_or, Option.not_isSome_iff_eq_none, or_comm]
  | false =>
    show ¬(model?.isSome ∧ table?.isSome ∧ join?.isSome ∧ peerJoin?.isSome) ↔
      (table? = none ∨ join? = none ∨ peerJoin? = none) ∨ model? = none
    simp only [not_and_or, Option.not_isSome_iff_eq_none, or_comm]

end Records

/-! ### The class -/

/-- **What a class fails for.** It fails exactly if one of the items lacks a value, and then for the value that is
lacked by the first of these items in the order of writing. Whatever the record of a relation with two sides has of the
other side, it lacks something exactly if it has no model, or not all that its own side asks for. -/
theorem class_fails_for (e : Entity) :
    ((∃ error, render e = .error error) ↔ ∃ item ∈ e.items, ∃ slot template, Lacks item slot template) ∧
    (∀ error, render e = .error error ↔
      ∃ item slot template, e.LacksFirst Lacks item slot template ∧
        error = .unresolvedSlot item.name slot.name template) ∧
    (∀ name model? nullable inverse join? action? peer?,
      (∃ slot template,
        Lacks (.oneToOne ⟨name, model?, nullable, inverse, join?, action?, peer?⟩) slot template) ↔
          (if inverse then peer? = none else join? = none) ∨ model? = none) ∧
    ∀ name model? inverse table? join? peerJoin? peer?,
      (∃ slot template,
        Lacks (.manyToMany ⟨name, model?, inverse, table?, join?, peerJoin?, peer?⟩) slot template) ↔
          (if inverse then peer? = none else table? = none ∨ join? = none ∨ peerJoin? = none) ∨ model? = none := by
  rw [render_eq]
  refine ⟨failsFor_block.exists_run_eq_error_iff, fun _ => failsFor_block.run_eq_error_iff, ?_, ?_⟩
  · intros
    exact exists_lacks_oneToOne_iff
  · intros
    exact exists_lacks_manyToMany_iff

/-- In Kotlin it is the origin of a draft. -/
theorem class_fails_for_origin :
    render Entity.draft = .error (.unresolvedSlot "origin" "peer_field" "mappedBy = \"\x7bpeer_field\x7d\"") := by
  obtain ⟨-, first, -⟩ := class_fails_for Entity.draft
  refine (first _).mpr ⟨_, .peerField, _, ⟨[_], _, rfl, ?_, .oneToOnePeer⟩, rfl⟩
  intro earlier there
  rw [List.mem_singleton.mp there]
  exact failsFor_block.passes_iff.mp ⟨_, rfl⟩

end EntityGen.Kotlin
