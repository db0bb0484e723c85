import EntityGen.Proofs.Render.Kotlin.Items

/-!
What the annotations of a class tell. An annotation goes by what stands before its arguments, and no text of an
item stands there (`annotationName?_append`): the names of the annotations of a block are the renderer's own,
whatever the texts are. The block of a stored field tells once whether the value may be absent, and its type tells
the same (`AbsenceTold`). The block of a relation tells how the relation is held, by the other class or over a join
here and never both (`Relates`). All blocks of a class do so (`annotations_agree`). -/
namespace EntityGen.Kotlin
open Text

/-! ### The annotations of a block -/

/-- The name of the annotation that a line starts with, if it starts with one. -/
def annotationName? (line : String) : Option String :=
  if line.toList.head? = some '@' then some (String.ofList (line.toList.takeWhile (· ≠ '('))) else none

/-- The names of the annotations in a block, in order. -/
def annotationNames (ls : List String) : List String := ls.filterMap annotationName?

/-- The block ends in the declaration of its property, with the mark of a type that may be absent or without. -/
def EndsIn (name type : String) (marked : Bool) (ls : List String) : Prop :=
  ls.getLast? = some ("var " ++ Identifier.kotlin name ++ ": " ++ type ++ (if marked then "?" else "") ++ ",")

/-- Behind an opening parenthesis there is no name any more. -/
theorem annotationName?_append {before : String} (h : '(' ∈ before.toList) (after : String) :
    annotationName? (before ++ after) = annotationName? before := by
  obtain ⟨name, rest, cut, bare⟩ := List.eq_append_cons_of_mem h
  have letters : ∀ c ∈ name, decide (c ≠ '(') = true := by
    intro c hc
    rw [decide_eq_true_eq]
    rintro rfl
    exact bare hc
  have stop : ∀ more, (name ++ '(' :: more).takeWhile (· ≠ '(') = name := by
    intro more
    rw [List.takeWhile_append_of_pos letters, List.takeWhile_cons_of_neg (by simp), List.append_nil]
  have start : ∀ more, (name ++ '(' :: more).head? = (name ++ ['(']).head? := by
    intro more
    cases name <;> rfl
  rw [annotationName?, annotationName?, String.toList_append, cut, List.append_assoc, List.cons_append, stop, stop,
    start, start rest]

theorem annotationName?_property (name type : String) (nullable : Bool) :
    annotationName? (property name type nullable) = none := by
  simp [annotationName?, property]

theorem annotationName?_annotated {name : String} (named : annotationName? name = some name)
    (opened : annotationName? (name ++ "(") = some name) (arguments : List String) :
    annotationName? (annotated name arguments) = some name := by
  unfold annotated
  split
  · exact named
  · have parenthesis : '(' ∈ (name ++ "(").toList := by simp
    rw [String.append_assoc, annotationName?_append parenthesis, opened]

theorem annotationName?_joinColumnMark (column : String) :
    annotationName? (joinColumnMark column) = some "@JoinColumn" := by
  have opened : '(' ∈ "@JoinColumn(name = \"".toList := by decide
  have name : annotationName? "@JoinColumn(name = \"" = some "@JoinColumn" := by decide +kernel
  unfold joinColumnMark
  rw [String.append_assoc, annotationName?_append opened, name]

theorem mem_annotationNames {ls : List String} {line name : String} (hl : line ∈ ls)
    (named : annotationName? line = some name) : name ∈ annotationNames ls :=
  List.mem_filterMap.mpr ⟨line, hl, named⟩

theorem annotationNames_onlyIf {mark name : String} (named : annotationName? mark = some name) (wanted : Bool) :
    annotationNames (onlyIf wanted mark) = onlyIf wanted name := by
  cases wanted
  · rfl
  · exact List.filterMap_cons_some named

/-- The property of a block is no annotation. -/
theorem annotationNames_block (marks : List String) (name type : String) (nullable : Bool) :
    annotationNames (marks ++ [property name type nullable]) = annotationNames marks := by
  rw [annotationNames, List.filterMap_append, List.filterMap_cons_none (annotationName?_property ..),
    List.filterMap_nil, List.append_nil]
  rfl

theorem endsIn_property (marks : List String) (name type : String) (nullable : Bool) :
    EndsIn name type nullable (marks ++ [property name type nullable]) :=
  List.getLast?_concat

/-! ### Stored fields -/

/-- The block of a stored field tells once whether the value may be absent, and its type tells the same. -/
structure AbsenceTold (c : Column) (ls : List String) : Prop where
  /-- Of the two annotations that tell so there is one, and it comes first. -/
  names : ∃ others, annotationNames ls = (if c.nullable then "@Column" else "@NotNull") :: others ∧
    "@Column" ∉ others ∧ "@NotNull" ∉ others
  absent : "@Column(nullable = true)" ∈ ls ↔ c.nullable = true
  present : "@NotNull" ∈ ls ↔ c.nullable = false
  /-- The type has no mark of its own. -/
  type : ∃ type, EndsIn c.name type c.nullable ls ∧ '?' ∉ type.toList

/-- The line does not tell whether a value may be absent. -/
def Silent (line : String) : Prop := annotationName? line ≠ some "@Column" ∧ annotationName? line ≠ some "@NotNull"

instance (line : String) : Decidable (Silent line) := inferInstanceAs (Decidable (_ ∧ _))

theorem silent_ruleMark {rule : Rule} {mark : String} (h : ruleMark? rule = some mark) : Silent mark := by
  cases rule with
  | email | url =>
    cases h
    decide
  | atLeast min =>
    cases h
    have opened : '(' ∈ "@Min(".toList := by decide
    rw [Silent, String.append_assoc, annotationName?_append opened]
    decide
  | ip | choice _ => exact nomatch h

theorem silent_generation (generation : Generation) : ∀ s ∈ generationAnnotations generation, Silent s := by
  cases generation <;> decide

/-- The first annotation of a stored field tells whether the value may be absent, and no other does. -/
theorem columnAnnotations_eq (c : Column) :
    ∃ others, columnAnnotations c = (if c.nullable then "@Column(nullable = true)" else "@NotNull") :: others ∧
      ∀ s ∈ others, Silent s := by
  refine ⟨onlyIf c.primaryKey "@Id" ++ generationAnnotations c.generation ++ c.rules.filterMap ruleMark?, rfl,
    fun s hs => ?_⟩
  simp only [List.mem_append, List.mem_filterMap] at hs
  rcases hs with (hs | hs) | ⟨rule, -, hs⟩
  · exact forall_mem_onlyIf (by decide) s hs
  · exact silent_generation c.generation s hs
  · exact silent_ruleMark hs

theorem absenceTold (c : Column) (value : ValueKind) :
    AbsenceTold c (columnAnnotations c ++ [property c.name value.kotlinType c.nullable]) := by
  obtain ⟨others, marks, silent⟩ := columnAnnotations_eq c
  have untold : ∀ name ∈ annotationNames others, name ≠ "@Column" ∧ name ≠ "@NotNull" := by
    intro name mem
    obtain ⟨s, hs, named⟩ := List.mem_filterMap.mp mem
    exact ⟨fun same => (silent s hs).1 (same ▸ named), fun same => (silent s hs).2 (same ▸ named)⟩
  have column : "@Column" ∉ annotationNames others := fun mem => (untold _ mem).1 rfl
  have notNull : "@NotNull" ∉ annotationNames others := fun mem => (untold _ mem).2 rfl
  have first : annotationName? (if c.nullable then "@Column(nullable = true)" else "@NotNull") =
      some (if c.nullable then "@Column" else "@NotNull") := by
    cases c.nullable <;> decide
  have bare : '?' ∉ value.kotlinType.toList := by cases value <;> decide
  have names : annotationNames (columnAnnotations c ++ [property c.name value.kotlinType c.nullable]) =
      (if c.nullable then "@Column" else "@NotNull") :: annotationNames others := by
    rw [annotationNames_block, marks]
    exact List.filterMap_cons_some first
  refine ⟨⟨_, names, column, notNull⟩, ⟨fun mem => ?_, fun absent => ?_⟩, ⟨fun mem => ?_, fun present => ?_⟩,
    _, endsIn_property .., bare⟩
  · have name : annotationName? "@Column(nullable = true)" = some "@Column" := by decide
    have named := mem_annotationNames mem name
    rw [names] at named
    cases hn : c.nullable with
    | true => rfl
    | false => simp [hn, column] at named
  · rw [marks, absent]
    exact List.mem_cons_self ..
  · have name : annotationName? "@NotNull" = some "@NotNull" := by decide
    have named := mem_annotationNames mem name
    rw [names] at named
    cases hn : c.nullable with
    | false => rfl
    | true => simp [hn, notNull] at named
  · rw [marks, present]
    exact List.mem_cons_self ..

/-! ### Relations -/

/-- How a relation is held. -/
inductive Holding where
  /-- By the other class, in this property. -/
  | elsewhere (property : String)
  /-- Here, with the key in this column. -/
  | inColumn (column : String)
  /-- Here, over this table with a column for each key. -/
  | overTable (table join peerJoin : String)
  deriving DecidableEq, Repr

namespace Holding

/-- The argument that a relation is mapped by. -/
def mappedBy : Holding → List String
  | elsewhere property => ["mappedBy = \"" ++ property ++ "\""]
  | inColumn _ | overTable .. => []

/-- The lines of the join. -/
def join : Holding → List String
  | elsewhere _ => []
  | inColumn column => [joinColumnMark column]
  | overTable table join peerJoin => (joinTableMarks table join peerJoin).tail

/-- The annotation of the join. -/
def joinNames : Holding → List String
  | elsewhere _ => []
  | inColumn _ => ["@JoinColumn"]
  | overTable .. => ["@JoinTable"]

/-- How a one-to-one relation is held, by the attributes of the side that it is on. -/
def ofOneToOne (r : OneToOne) : Option Holding :=
  if r.isInverse then r.peerField.map elsewhere else r.joinColumn.map inColumn

/-- How a many-to-many relation is held, by the attributes of the side that it is on. -/
def ofManyToMany (r : ManyToMany) : Option Holding :=
  if r.isInverse then r.peerField.map elsewhere
  else r.joinTable.bind fun table => r.joinColumn.bind fun join => r.peerJoinColumn.map fun peerJoin =>
    overTable table join peerJoin

end Holding

/-- The block of a relation tells how it is held and whether the related entity may be absent. -/
structure Relates (mapping : String) (holding : Holding) (required optional : Bool) (ls : List String) : Prop where
  /-- The relation has one annotation of its own and that of its join, and there is no other. -/
  names : annotationNames ls = onlyIf required "@NotNull" ++ mapping :: holding.joinNames
  mapped : annotated mapping (holding.mappedBy ++ onlyIf optional "optional = true") ∈ ls
  join : holding.join <:+: ls

theorem annotationNames_joinTableMarks (table join peerJoin : String) :
    annotationNames (joinTableMarks table join peerJoin) = ["@ManyToMany", "@JoinTable"] := by
  have mapping : annotationName? "@ManyToMany" = some "@ManyToMany" := by decide +kernel
  have joined : annotationName? "@JoinTable(" = some "@JoinTable" := by decide +kernel
  have indented : ∀ s : String, annotationName? ("    " ++ s) = none := by simp [annotationName?]
  have closing : annotationName? ")" = none := by decide
  simp only [annotationNames, joinTableMarks, List.filterMap_cons, List.filterMap_nil, mapping, joined, indented,
    closing]

/-- A mapping may have an annotation against null before it. -/
theorem annotationNames_mapping {mark mapping : String} (named : annotationName? mark = some mapping)
    (nullable : Bool) (rest : List String) :
    annotationNames (notNull nullable ++ mark :: rest) =
      onlyIf (!nullable) "@NotNull" ++ mapping :: annotationNames rest := by
  have against : annotationName? "@NotNull" = some "@NotNull" := by decide
  have first : annotationNames (mark :: rest) = mapping :: annotationNames rest := List.filterMap_cons_some named
  have split : annotationNames (notNull nullable ++ mark :: rest) =
      annotationNames (notNull nullable) ++ annotationNames (mark :: rest) := List.filterMap_append
  rw [split, notNull, annotationNames_onlyIf against, first]

/-- A relation to one entity that the other class holds. -/
theorem relates_inverse {name model peer : String} {nullable : Bool} :
    Relates "@OneToOne" (.elsewhere peer) (!nullable) nullable
      (notNull nullable ++ [annotated "@OneToOne" (("mappedBy = \"" ++ peer ++ "\"") :: optionalArgument nullable)] ++
        [property name model nullable]) where
  names := by
    have bare : annotationName? "@OneToOne" = some "@OneToOne" := by decide
    have opened : annotationName? ("@OneToOne" ++ "(") = some "@OneToOne" := by decide +kernel
    rw [annotationNames_block, annotationNames_mapping (annotationName?_annotated bare opened _)]
    rfl
  mapped := List.mem_append_left _ (List.mem_append_right _ (List.mem_singleton_self _))
  join := List.nil_infix

/-- A relation to one entity that is held here, one to one or many to one. -/
theorem relates_reference {mapping name model join : String} {nullable : Bool}
    (named : annotationName? mapping = some mapping) (opened : annotationName? (mapping ++ "(") = some mapping) :
    Relates mapping (.inColumn join) (!nullable) nullable
      (notNull nullable ++ [annotated mapping (optionalArgument nullable), joinColumnMark join] ++
        [property name model nullable]) where
  names := by
    have joined : annotationNames [joinColumnMark join] = ["@JoinColumn"] :=
      List.filterMap_cons_some (annotationName?_joinColumnMark join)
    rw [annotationNames_block, annotationNames_mapping (annotationName?_annotated named opened _), joined]
    rfl
  mapped := List.mem_append_left _ (List.mem_append_right _ (List.mem_cons_self ..))
  join := ⟨notNull nullable ++ [annotated mapping (optionalArgument nullable)], [property name model nullable], by
    simp [Holding.join]⟩

/-- A relation to many entities that the other class holds. -/
theorem relates_inverse_many (mapping : String) {name model peer : String}
    (opened : annotationName? (mapping ++ "(mappedBy = \"") = some mapping) :
    Relates mapping (.elsewhere peer) false false
      ([mapping ++ "(mappedBy = \"" ++ peer ++ "\")"] ++ [property name (listOf model) false]) where
  names := by
    have parenthesis : '(' ∈ (mapping ++ "(mappedBy = \"").toList := by simp
    have named : annotationName? (mapping ++ "(mappedBy = \"" ++ peer ++ "\")") = some mapping := by
      rw [String.append_assoc, annotationName?_append parenthesis, opened]
    rw [annotationNames_block]
    exact List.filterMap_cons_some named
  mapped := by
    have line : annotated mapping ["mappedBy = \"" ++ peer ++ "\""] = mapping ++ "(mappedBy = \"" ++ peer ++ "\")" := by
      rw [← String.toList_inj]
      simp [annotated]
    show annotated mapping ["mappedBy = \"" ++ peer ++ "\""] ∈ _
    rw [line]
    exact List.mem_cons_self ..
  join := List.nil_infix

/-- A relation to many entities that is held here. -/
theorem relates_joinTable {name model table join peerJoin : String} :
    Relates "@ManyToMany" (.overTable table join peerJoin) false false
      (joinTableMarks table join peerJoin ++ [property name (listOf model) false]) where
  names := by
    rw [annotationNames_block, annotationNames_joinTableMarks]
    rfl
  mapped := List.mem_append_left _ (List.mem_cons_self ..)
  join := ⟨["@ManyToMany"], [property name (listOf model) false], rfl⟩

/-! ### Blocks -/

/-- What the annotations of an item tell. How a relation with two sides is held goes by the attributes of its own side
alone, even if its record has those of the other side as well. -/
def Agrees : Item → List String → Prop
  | .column c, ls => AbsenceTold c ls
  | .oneToOne r, ls =>
    ∃ holding model, Holding.ofOneToOne r = some holding ∧ r.relatedModel = some model ∧
      Relates "@OneToOne" holding (!r.nullable) r.nullable ls ∧ EndsIn r.name model r.nullable ls
  | .manyToOne r, ls =>
    ∃ model, r.relatedModel = some model ∧
      Relates "@ManyToOne" (.inColumn r.joinColumn) (!r.nullable) r.nullable ls ∧ EndsIn r.name model r.nullable ls
  | .oneToMany r, ls =>
    ∃ peer model, r.peerField = some peer ∧ r.relatedModel = some model ∧
      Relates "@OneToMany" (.elsewhere peer) false false ls ∧ EndsIn r.name (listOf model) false ls
  | .manyToMany r, ls =>
    ∃ holding model, Holding.ofManyToMany r = some holding ∧ r.relatedModel = some model ∧
      Relates "@ManyToMany" holding false false ls ∧ EndsIn r.name (listOf model) false ls

theorem agrees_of_block {item : Item} {ls : List String} (written : block item = .ok ls) : Agrees item ls := by
  obtain ⟨marks, type, declares, rfl⟩ := block_eq_ok_iff.mp written
  cases declares with
  | column => exact absenceTold _ _
  | inverseOneToOne => exact ⟨_, _, rfl, rfl, relates_inverse, endsIn_property ..⟩
  | owningOneToOne =>
    exact ⟨_, _, rfl, rfl, relates_reference (by decide) (by decide +kernel), endsIn_property ..⟩
  | manyToOne => exact ⟨_, rfl, relates_reference (by decide) (by decide +kernel), endsIn_property ..⟩
  | oneToMany =>
    exact ⟨_, _, rfl, rfl, relates_inverse_many "@OneToMany" (by decide +kernel), endsIn_property ..⟩
  | inverseManyToMany =>
    exact ⟨_, _, rfl, rfl, relates_inverse_many "@ManyToMany" (by decide +kernel), endsIn_property ..⟩
  | owningManyToMany => exact ⟨_, _, rfl, rfl, relates_joinTable, endsIn_property ..⟩

/-- **Annotations agree with each other and with types.** The blocks of a class are those of its items. In the
block of a stored field, one of two annotations tells whether the value may be absent, and the type is marked
exactly if it may. In the block of a relation, the related entity may be absent according to its annotations exactly
if it may according to its type, never where there are many; and the block names either the property of the other
class that holds the relation or the join that holds it here, as the side of the relation has it, whatever its record
has of the other side. -/
theorem annotations_agree {e : Entity} {text : String} (written : render e = .ok text) :
    ∃ blocks, text = declaration e.className e.table blocks ∧
      List.Forall₂ (fun item ls => block item = .ok ls ∧ Agrees item ls) e.items blocks := by
  rw [render_eq] at written
  obtain ⟨blocks, run, rfl⟩ := map_eq_ok_iff.mp written
  refine ⟨blocks, rfl, (mapM_eq_ok_iff.mp run).imp fun item ls hb => ⟨hb, agrees_of_block hb⟩⟩

/-- A member whose relations have attributes of the other side in their records: the badge a column for the key that
the other class holds, and the teams a field of the class that does not hold them. -/
def badged : Entity where
  app := "club"
  className := "Member"
  table := "club_member"
  oneToOne := [⟨"badge", some "Badge", true, true, some "badge_id", some "CASCADE", some "owner"⟩]
  manyToMany := [⟨"teams", some "Team", false, some "club_team", some "member_id", some "team_id", some "members"⟩]

theorem annotations_agree_badge :
    ∃ text badge teams, render badged = .ok text ∧ text = declaration "Member" "club_member" [badge, teams] ∧
      annotationNames badge = ["@OneToOne"] ∧ "@OneToOne(mappedBy = \"owner\", optional = true)" ∈ badge ∧
      EndsIn "badge" "Badge" true badge ∧
      annotationNames teams = ["@ManyToMany", "@JoinTable"] ∧ "@ManyToMany" ∈ teams ∧
      EndsIn "teams" "List<Team>" false teams := by
  have written : ∃ text, render badged = .ok text := ⟨_, rfl⟩
  obtain ⟨text, written⟩ := written
  obtain ⟨blocks, rfl, agree⟩ := annotations_agree written
  obtain ⟨badge, rest, ⟨-, held, badgeModel, one, badgeRelated, badgeRelates, badgeEnds⟩, others, rfl⟩ :=
    List.forall₂_cons_left_iff.mp agree
  obtain ⟨teams, rest, ⟨-, joined, teamsModel, many, teamsRelated, teamsRelates, teamsEnds⟩, none, rfl⟩ :=
    List.forall₂_cons_left_iff.mp others
  cases none
  cases one
  cases badgeRelated
  cases many
  cases teamsRelated
  have mapped : annotated "@OneToOne" ["mappedBy = \"owner\"", "optional = true"] =
    "@OneToOne(mappedBy = \"owner\", optional = true)" := by decide +kernel
  exact ⟨_, badge, teams, written, rfl, badgeRelates.names, mapped ▸ badgeRelates.mapped, badgeEnds,
    teamsRelates.names, teamsRelates.mapped, teamsEnds⟩

end EntityGen.Kotlin
