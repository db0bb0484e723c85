import EntityGen.Proofs.Entity.Items
import EntityGen.Proofs.Identifier.Characters
import EntityGen.Proofs.Render.Go.Members

/-!
What reaches the lines of members. Identifiers are letters and digits, the tags of the catalogue are clean, and
nothing else comes into a line but the texts of its item. So the members of an item and their lines have every
structural property that the texts of the item have (`held_members`, `held_line`); to hold no line break is one
(`oneLine_members`, `Member.OneLine.line`). -/
namespace EntityGen.Go
open Text

/-- The texts of a member. -/
def Member.texts : Member → List String
  | tagged identifier type storage validation => identifier :: type :: (storage ++ validation)
  | commented identifier type comment => [identifier, type, comment]

/-- No text of the member holds a line break. -/
def Member.OneLine (m : Member) : Prop := ∀ s ∈ m.texts, Text.OneLine s

/-- The kinds of tags that a member has, each with its name. -/
def tagParts (options : Options) (storage validation : List String) : List String :=
  onlyIf (options.storageTags && !storage.isEmpty) ("gorm:\"" ++ sepBy ";" storage ++ "\"") ++
    onlyIf (options.validationTags && !validation.isEmpty) ("validate:\"" ++ sepBy "," validation ++ "\"")

theorem tags_eq (options : Options) (storage validation : List String) :
    tags options storage validation =
      if (tagParts options storage validation).isEmpty then ""
      else "`" ++ sepBy " " (tagParts options storage validation) ++ "`" := rfl

/-- What the catalogue writes around the values is clean. -/
theorem clean_mapping (kind : Kind) :
    Clean (Template.skeleton (Mapping.go kind).type) ∧
      (∀ t ∈ (Mapping.go kind).storage, Clean (Template.skeleton t)) ∧
      ∀ t ∈ (Mapping.go kind).validation, Clean (Template.skeleton t) := by
  cases kind <;> decide

section Structural
variable {P : String → Prop} (hP : Structural P)
include hP

theorem held_identifier (name : String) : P (Identifier.go name) := hP.wordlike (Identifier.wordlike_go name)

/-! ### Lines -/

theorem held_tags {options : Options} {storage validation : List String} (hs : ∀ s ∈ storage, P s)
    (hv : ∀ s ∈ validation, P s) : P (tags options storage validation) := by
  have gorm : P ("gorm:\"" ++ sepBy ";" storage ++ "\"") := hP.between (by decide) (hP.sepBy (by decide) hs)
  have validate : P ("validate:\"" ++ sepBy "," validation ++ "\"") :=
    hP.between (by decide) (hP.sepBy (by decide) hv)
  have parts : ∀ s ∈ tagParts options storage validation, P s :=
    List.forall_mem_append.mpr ⟨forall_mem_onlyIf gorm, forall_mem_onlyIf validate⟩
  rw [tags_eq]
  split
  · exact hP.empty
  · exact hP.between (by decide) (hP.sepBy (by decide) parts)

theorem held_columns {identifier type last : String} (hi : P identifier) (ht : P type) (hl : P last) :
    P (columns identifier type last) := by
  have space : P " " := hP.clean (by decide)
  have first : P (padRight 25 identifier ++ " ") := hP.append (hP.padRight hi 25) space
  exact hP.append (hP.append (hP.append first (hP.padRight ht 12)) space) hl

theorem held_line {m : Member} (h : ∀ s ∈ m.texts, P s) (options : Options) : P (m.line options) := by
  cases m with
  | tagged identifier type storage validation =>
    have hi : P identifier := h _ (by simp [Member.texts])
    have ht : P type := h _ (by simp [Member.texts])
    have hs : ∀ s ∈ storage, P s := fun s hs => h s (by simp [Member.texts, hs])
    have hv : ∀ s ∈ validation, P s := fun s hs => h s (by simp [Member.texts, hs])
    exact hP.trimEnd (held_columns hP hi ht (held_tags hP hs hv))
  | commented identifier type comment =>
    exact held_columns hP (h _ (by simp [Member.texts])) (h _ (by simp [Member.texts]))
      (h _ (by simp [Member.texts]))

/-! ### Stored fields -/

theorem held_filled {template : Option String} {slots : Slots} {field : String} {parts : List String}
    (h : filled template slots field = .ok parts) (ht : ∀ t ∈ template, Clean (Template.skeleton t))
    (hv : ∀ slot value, slots.value? slot = some value → P value) : ∀ s ∈ parts, P s := by
  cases template with
  | none =>
    cases h
    exact nofun
  | some template =>
    obtain ⟨text, hf, rfl⟩ := map_eq_ok_iff.mp h
    exact List.forall_mem_singleton.mpr (Template.held_fill hP hf (hP.clean (ht template rfl)) hv)

theorem held_columnStorage (c : Column) : ∀ s ∈ columnStorage c, P s := by
  intro s hs
  simp only [columnStorage, List.mem_append] at hs
  rcases hs with (((hs | hs) | hs) | hs) | hs
  · exact forall_mem_onlyIf (hP.clean (by decide)) s hs
  · split at hs
    · exact List.mem_singleton.mp hs ▸ hP.clean (by decide)
    · exact List.mem_singleton.mp hs ▸ hP.clean (by decide)
    · exact nomatch hs
  · exact forall_mem_onlyIf (hP.clean (by decide)) s hs
  · exact forall_mem_onlyIf (hP.clean (by decide)) s hs
  · exact forall_mem_onlyIf (hP.clean (by decide)) s hs

theorem held_columnValidation {c : Column} (h : ∀ s ∈ (Item.column c).texts, P s) :
    ∀ s ∈ columnValidation c, P s := by
  intro s hs
  simp only [columnValidation, List.mem_append] at hs
  rcases hs with (hs | hs) | hs
  · split at hs
    · exact List.mem_singleton.mp hs ▸ hP.append (hP.clean (by decide)) (hP.digits _)
    · exact nomatch hs
  · obtain ⟨rule, hr, hs⟩ := List.mem_filterMap.mp hs
    cases rule with
    | choice values =>
      have held : ∀ v ∈ values, P v := by
        intro v hv
        have : v ∈ c.rules.flatMap Rule.texts := List.mem_flatMap.mpr ⟨_, hr, hv⟩
        exact h v (by simp [Item.texts, this])
      exact Option.some.inj hs ▸ hP.append (hP.clean (by decide)) (hP.sepBy (by decide) held)
    | _ => exact nomatch hs
  · exact forall_mem_onlyIf (hP.clean (by decide)) s hs

theorem held_columnMember {c : Column} {m : Member} (hm : columnMember c = .ok m)
    (h : ∀ s ∈ (Item.column c).texts, P s) : ∀ s ∈ m.texts, P s := by
  obtain ⟨storage, hs, validation, hv, type, ht, rfl⟩ := columnMember_eq_ok_iff.mp hm
  obtain ⟨typeTemplate, storageTemplate, validationTemplate⟩ := clean_mapping c.kind
  have values : ∀ slot value,
      ({ column := some c.column, maxLength := c.maxLength } : Slots).value? slot = some value → P value := by
    intro slot value hvalue
    cases slot with
    | column => exact Option.some.inj hvalue ▸ h c.column (by simp [Item.texts])
    | maxLength =>
      obtain ⟨n, -, rfl⟩ := Option.map_eq_some_iff.mp hvalue
      exact hP.digits _
    | _ => exact nomatch hvalue
  intro s hmem
  simp only [Member.texts, List.mem_cons, List.mem_append] at hmem
  rcases hmem with rfl | rfl | (hmem | hmem) | (hmem | hmem)
  · exact held_identifier hP c.name
  · exact Template.held_fill hP ht (hP.clean typeTemplate) values
  · exact held_filled hP hs storageTemplate values s hmem
  · exact held_columnStorage hP c s hmem
  · exact held_filled hP hv validationTemplate values s hmem
  · exact held_columnValidation hP h s hmem

/-! ### Relations -/

theorem held_keyMember {join : String} {storage : List String} (h : ∀ s ∈ storage, Clean s) :
    ∀ s ∈ (keyMember join storage).texts, P s := by
  intro s hs
  simp only [keyMember, Member.texts, List.append_nil, List.mem_cons] at hs
  rcases hs with rfl | rfl | hs
  · exact held_identifier hP join
  · exact hP.clean (by decide)
  · exact hP.clean (h s hs)

/-- Neither an underscore nor the space in its place is a mark. -/
theorem held_actionTag {action : String} (h : P action) : P (actionTag action) := by
  refine hP.append (hP.clean (by decide)) (hP.map (fun c => ?_) h)
  split
  · next underscore => exact .inr (underscore ▸ by decide)
  · exact .inl rfl

theorem held_relationMember {name model join : String} {nullable : Bool} {action : Option String}
    (hm : P model) (ha : ∀ a ∈ action, P a) :
    ∀ s ∈ (relationMember name model join nullable action).texts, P s := by
  intro s hs
  simp only [relationMember, Member.texts, List.append_nil, List.mem_cons, List.mem_append, List.mem_nil_iff,
    or_false] at hs
  rcases hs with rfl | rfl | (rfl | hs) | hs
  · exact held_identifier hP name
  · exact hm
  · exact hP.append (hP.clean (by decide)) (held_identifier hP join)
  · obtain ⟨a, ha', rfl⟩ := Option.map_eq_some_iff.mp (Option.mem_toList.mp hs)
    exact held_actionTag hP (ha a ha')
  · exact forall_mem_onlyIf (hP.clean (by decide)) s hs

theorem held_reference {name model join : String} {nullable : Bool} {action : Option String}
    {storage : List String} (hs : ∀ s ∈ storage, Clean s) (hm : P model) (ha : ∀ a ∈ action, P a) :
    ∀ m ∈ [keyMember join storage, relationMember name model join nullable action], ∀ s ∈ m.texts, P s :=
  List.forall_mem_cons.mpr
    ⟨held_keyMember hP hs, List.forall_mem_singleton.mpr (held_relationMember hP hm ha)⟩

/-! ### Items -/

/-- The members of an item have every structural property that its texts have. -/
theorem held_members {className : String} {item : Item} {ms : List Member}
    (hm : (members className item).outcome = .ok ms) (h : ∀ s ∈ item.texts, P s) :
    ∀ m ∈ ms, ∀ s ∈ m.texts, P s := by
  cases declares_of_members hm with
  | column =>
    obtain ⟨m, hm, heq⟩ := map_eq_ok_iff.mp hm
    have one : ∀ s ∈ m.texts, P s := held_columnMember hP hm h
    exact heq ▸ List.forall_mem_singleton.mpr one
  | @owningOneToOne name model join nullable action =>
    have hmodel : P model := h model (by simp [Item.texts])
    have haction : ∀ a ∈ action, P a := fun a ha => h a (by simp_all [Item.texts, OneToOne.sideTexts])
    exact held_reference hP (by decide) hmodel haction
  | inverseOneToOne => nofun
  | @manyToOne name model join nullable action =>
    have hmodel : P model := h model (by simp [Item.texts])
    have haction : ∀ a ∈ action, P a := fun a ha => h a (by simp_all [Item.texts])
    exact held_reference hP (by decide) hmodel haction
  | oneToMany => nofun
  | @owningManyToMany name model table _ _ =>
    have hmodel : P model := h model (by simp [Item.texts])
    have htable : P table := h table (by simp [Item.texts, ManyToMany.sideTexts])
    refine List.forall_mem_singleton.mpr fun s hs => ?_
    simp only [Member.texts, List.append_nil, List.mem_cons, List.mem_nil_iff, or_false] at hs
    rcases hs with rfl | rfl | rfl
    · exact held_identifier hP name
    · exact hP.append (hP.clean (by decide)) hmodel
    · exact hP.append (hP.clean (by decide)) htable
  | @inverseManyToMany name model peer =>
    have hmodel : P model := h model (by simp [Item.texts])
    refine List.forall_mem_singleton.mpr fun s hs => ?_
    simp only [Member.texts, List.mem_cons, List.mem_nil_iff, or_false] at hs
    rcases hs with rfl | rfl | rfl
    · exact held_identifier hP name
    · exact hP.append (hP.clean (by decide)) hmodel
    · have comment : P ("// back-reference to " ++ model ++ ".") := hP.between (by decide) hmodel
      exact hP.append comment (held_identifier hP peer)

end Structural

theorem Member.OneLine.line {m : Member} (h : m.OneLine) (options : Options) : Text.OneLine (m.line options) :=
  held_line structural_oneLine h options

/-- The members of an item without line breaks are without. -/
theorem oneLine_members {className : String} {item : Item} {ms : List Member}
    (hm : (members className item).outcome = .ok ms) (h : item.OneLine) : ∀ m ∈ ms, m.OneLine :=
  held_members structural_oneLine hm h

end EntityGen.Go
