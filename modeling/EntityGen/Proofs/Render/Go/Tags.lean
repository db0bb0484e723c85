import EntityGen.Proofs.Render.Go.Complete

/-!
What the options of a struct decide. An item has its members and is told of whatever the options are; a
line has its columns, and after them the tags of each kind that is asked for and that there is anything to
tag with (`Written`). Without tags a struct has no backtick but those of its texts (`backtick_of_untagged`). -/
namespace EntityGen.Go
open Text

/-! ### Lines -/

/-- The part of the tags that is for the storage. -/
def storageTag (storage : List String) : String := "gorm:\"" ++ sepBy ";" storage ++ "\""

/-- The part of the tags that is for a validator. -/
def validationTag (validation : List String) : String := "validate:\"" ++ sepBy "," validation ++ "\""

/-- The columns of the identifier and the type. -/
def firstColumns (identifier type : String) : String := padRight 25 identifier ++ " " ++ padRight 12 type

/-- The line of a member under the options. Either part of the tags stands there exactly if it is asked for
and there is something in it, and it reads the same with and without the other. -/
inductive Written (options : Options) : Member → String → Prop
  | untagged {identifier type : String} {storage validation : List String}
    (hs : ¬ (options.storageTags = true ∧ storage ≠ []))
    (hv : ¬ (options.validationTags = true ∧ validation ≠ [])) :
    Written options (.tagged identifier type storage validation)
      (String.ofList (trimEnd (firstColumns identifier type).toList))
  | storage {identifier type : String} {storage validation : List String}
    (hs : options.storageTags = true ∧ storage ≠ [])
    (hv : ¬ (options.validationTags = true ∧ validation ≠ [])) :
    Written options (.tagged identifier type storage validation)
      (firstColumns identifier type ++ " `" ++ storageTag storage ++ "`")
  | validation {identifier type : String} {storage validation : List String}
    (hs : ¬ (options.storageTags = true ∧ storage ≠ []))
    (hv : options.validationTags = true ∧ validation ≠ []) :
    Written options (.tagged identifier type storage validation)
      (firstColumns identifier type ++ " `" ++ validationTag validation ++ "`")
  | both {identifier type : String} {storage validation : List String}
    (hs : options.storageTags = true ∧ storage ≠ [])
    (hv : options.validationTags = true ∧ validation ≠ []) :
    Written options (.tagged identifier type storage validation)
      (firstColumns identifier type ++ " `" ++ storageTag storage ++ " " ++ validationTag validation ++ "`")
  | commented {identifier type comment : String} :
    Written options (.commented identifier type comment) (firstColumns identifier type ++ " " ++ comment)

theorem line_of_tags_eq_empty {options : Options} {identifier type : String} {storage validation : List String}
    (h : tags options storage validation = "") :
    (Member.tagged identifier type storage validation).line options =
      String.ofList (trimEnd (firstColumns identifier type).toList) := by
  have blank : ∀ c ∈ [' '], isBlank c = true := List.forall_mem_singleton.mpr (by decide)
  have cut : (columns identifier type "").toList = (firstColumns identifier type).toList ++ [' '] := by
    simp [columns, firstColumns]
  rw [Member.line, h, cut, trimEnd_append_blank blank]

/-- Tags end in a backtick, and nothing is cut off behind them. -/
theorem line_of_tags_eq {options : Options} {identifier type parts : String} {storage validation : List String}
    (h : tags options storage validation = "`" ++ parts ++ "`") :
    (Member.tagged identifier type storage validation).line options =
      firstColumns identifier type ++ " `" ++ parts ++ "`" := by
  have ink : isBlank '`' = false := by decide
  have cut : (columns identifier type ("`" ++ parts ++ "`")).toList =
      (firstColumns identifier type ++ " `" ++ parts).toList ++ ['`'] := by
    simp [columns, firstColumns]
  rw [Member.line, h, cut, trimEnd_append_singleton ink, ← String.toList_inj]
  simp

theorem asked_iff {wanted : Bool} {parts : List String} :
    (wanted && !parts.isEmpty) = true ↔ wanted = true ∧ parts ≠ [] := by
  simp

theorem written_line (options : Options) (m : Member) : Written options m (m.line options) := by
  cases m with
  | commented identifier type comment => exact .commented
  | tagged identifier type storage validation =>
    by_cases hs : (options.storageTags && !storage.isEmpty) = true
    · by_cases hv : (options.validationTags && !validation.isEmpty) = true
      · have two : tags options storage validation =
            "`" ++ (storageTag storage ++ " " ++ validationTag validation) ++ "`" := by
          simp only [tags, hs, hv, if_true]
          rfl
        rw [line_of_tags_eq two, ← String.append_assoc, ← String.append_assoc]
        exact .both (asked_iff.mp hs) (asked_iff.mp hv)
      · have one : tags options storage validation = "`" ++ storageTag storage ++ "`" := by
          simp only [tags, hs, hv, if_true]
          rfl
        rw [line_of_tags_eq one]
        exact .storage (asked_iff.mp hs) (mt asked_iff.mpr hv)
    · by_cases hv : (options.validationTags && !validation.isEmpty) = true
      · have one : tags options storage validation = "`" ++ validationTag validation ++ "`" := by
          simp only [tags, hs, hv, if_true]
          rfl
        rw [line_of_tags_eq one]
        exact .validation (mt asked_iff.mpr hs) (asked_iff.mp hv)
      · have none : tags options storage validation = "" := by
          simp only [tags, hs, hv]
          rfl
        rw [line_of_tags_eq_empty none]
        exact .untagged (mt asked_iff.mpr hs) (mt asked_iff.mpr hv)

/-! ### Structs -/

/-- What is told of an entity does not depend on the options. -/
theorem events_render_eq (options : Options) (e : Entity) :
    (render options e).events = (Traced.forEach (members e.className) e.items).events := by
  rw [render]
  cases h : (Traced.forEach (members e.className) e.items).outcome with
  | error error => rw [Traced.bind_of_error h]
  | ok ms => rw [Traced.bind_of_ok h, Traced.events_pure, List.append_nil]

theorem render_eq_error_iff {options : Options} {e : Entity} {error : SchemaError} :
    (render options e).outcome = .error error ↔
      (e.items.mapM fun item => (members e.className item).outcome) = .error error := by
  rw [outcome_render, map_eq_error_iff]

/-- A struct that is written has, between its first and its last lines, a line for each member. -/
theorem lines_of_render {options : Options} {e : Entity} {own : List (List Member)}
    (h : List.Forall₂ (fun item ms => (members e.className item).outcome = .ok ms) e.items own) :
    ∃ ls, (render options e).outcome =
        .ok (unlines (structLines e.className e.table (ls.map ("    " ++ ·)))) ∧
      List.Forall₂ (Written options) own.flatten ls := by
  rw [← mapM_eq_ok_iff] at h
  refine ⟨own.flatten.map (·.line options), ?_, ?_⟩
  · rw [outcome_render, h, List.map_map]
    exact congrArg Except.ok (declaration_eq_unlines options e.className e.table own.flatten)
  · rw [List.forall₂_map_right_iff]
    exact List.forall₂_same.mpr fun m _ => written_line options m

/-! ### Backticks -/

theorem backtick_not_mem_identifier (name : String) : '`' ∉ (Identifier.go name).toList := by
  intro h
  exact absurd (Identifier.wordlike_go name _ h) (by decide)

/-- A character that stands neither before nor after a text is one of the text. -/
theorem mem_between {c : Char} {before s after : String} (hb : c ∉ before.toList) (ha : c ∉ after.toList)
    (h : c ∈ (before ++ s ++ after).toList) : c ∈ s.toList := by
  rw [String.toList_append, String.toList_append, List.mem_append, List.mem_append] at h
  exact (h.resolve_right ha).resolve_left hb

/-- A character of the columns that is no space is one of the identifier or of the type. -/
theorem mem_firstColumns {identifier type : String} {c : Char} (hc : c ≠ ' ')
    (h : c ∈ (firstColumns identifier type).toList) : c ∈ identifier.toList ∨ c ∈ type.toList := by
  simp only [firstColumns, String.toList_append, toList_padRight, List.mem_append] at h
  rcases h with ((h | h) | h) | h | h
  · exact .inl h
  · exact absurd (List.eq_of_mem_replicate h) hc
  · exact absurd (List.mem_singleton.mp h) hc
  · exact .inr h
  · exact absurd (List.eq_of_mem_replicate h) hc

/-- The type of a stored field is the one of the catalogue. -/
theorem type_of_columnMember {c : Column} {m : Member} (h : columnMember c = .ok m) :
    ∃ storage validation, m = .tagged (Identifier.go c.name) (Mapping.go c.kind).type storage validation := by
  obtain ⟨stored, -⟩ := exists_columnMember_iff_complete.mp ⟨m, h⟩
  have bare : '\x7b' ∉ (Mapping.go c.kind).type.toList := by
    cases hk : c.kind <;> first | decide | exact absurd (hk ▸ stored) (by decide)
  obtain ⟨storage, -, validation, -, type, ht, rfl⟩ := columnMember_eq_ok_iff.mp h
  rw [Template.fill_bare bare] at ht
  cases ht
  exact ⟨_, _, rfl⟩

theorem backtick_not_mem_type (kind : Kind) : '`' ∉ (Mapping.go kind).type.toList := by
  cases kind <;> decide

/-- The texts of a member that are not tags. -/
def Member.plain : Member → List String
  | tagged identifier type _ _ => [identifier, type]
  | commented identifier type comment => [identifier, type, comment]

/-- No tags are asked for. -/
def Options.untagged : Options := { storageTags := false, validationTags := false }

/-- An untagged line has only the characters of such texts, and spaces. -/
theorem mem_plain_of_written {m : Member} {l : String} (h : Written .untagged m l) {c : Char} (hc : c ≠ ' ')
    (hl : c ∈ l.toList) : ∃ text ∈ m.plain, c ∈ text.toList := by
  cases h with
  | @untagged identifier type _ _ _ _ =>
    rw [String.toList_ofList] at hl
    rcases mem_firstColumns hc (trimEnd_subset _ hl) with hl | hl
    · exact ⟨identifier, by simp [Member.plain], hl⟩
    · exact ⟨type, by simp [Member.plain], hl⟩
  | storage hs => exact absurd hs.1 Bool.false_ne_true
  | validation _ hv => exact absurd hv.1 Bool.false_ne_true
  | both hs => exact absurd hs.1 Bool.false_ne_true
  | @commented identifier type comment =>
    rw [String.toList_append, String.toList_append, List.mem_append, List.mem_append] at hl
    rcases hl with (hl | hl) | hl
    · rcases mem_firstColumns hc hl with hl | hl
      · exact ⟨identifier, by simp [Member.plain], hl⟩
      · exact ⟨type, by simp [Member.plain], hl⟩
    · exact absurd (List.mem_singleton.mp hl) hc
    · exact ⟨comment, by simp [Member.plain], hl⟩

/-- A backtick outside the tags comes from the model that an item refers to. -/
theorem backtick_mem_relatedModel {className : String} {item : Item} {ms : List Member}
    (h : (members className item).outcome = .ok ms) {m : Member} (hm : m ∈ ms) {text : String}
    (ht : text ∈ m.plain) (hb : '`' ∈ text.toList) :
    ∃ model, item.relatedModel = some model ∧ '`' ∈ model.toList := by
  have list : '`' ∉ "[]*".toList := by decide
  have comment : '`' ∉ "// back-reference to ".toList := by decide
  have point : '`' ∉ ".".toList := by decide
  have unsigned : '`' ∉ "uint32".toList := by decide
  cases declares_of_members h with
  | column =>
    obtain ⟨m', hm', heq⟩ := map_eq_ok_iff.mp h
    obtain ⟨_, _, rfl⟩ := type_of_columnMember hm'
    rw [← heq, List.mem_singleton] at hm
    subst hm
    simp only [Member.plain, List.mem_cons, List.mem_nil_iff, or_false] at ht
    rcases ht with rfl | rfl
    · exact absurd hb (backtick_not_mem_identifier _)
    · exact absurd hb (backtick_not_mem_type _)
  | owningOneToOne | manyToOne =>
    simp only [List.mem_cons, List.mem_nil_iff, or_false] at hm
    rcases hm with rfl | rfl <;>
      simp only [keyMember, relationMember, Member.plain, List.mem_cons, List.mem_nil_iff, or_false] at ht
    · rcases ht with rfl | rfl
      · exact absurd hb (backtick_not_mem_identifier _)
      · exact absurd hb unsigned
    · rcases ht with rfl | rfl
      · exact absurd hb (backtick_not_mem_identifier _)
      · exact ⟨_, rfl, hb⟩
  | inverseOneToOne | oneToMany => exact absurd hm (List.not_mem_nil)
  | @owningManyToMany name model _ _ _ =>
    rw [List.mem_singleton] at hm
    subst hm
    simp only [Member.plain, List.mem_cons, List.mem_nil_iff, or_false] at ht
    rcases ht with rfl | rfl
    · exact absurd hb (backtick_not_mem_identifier _)
    · rw [String.toList_append, List.mem_append] at hb
      exact ⟨model, rfl, hb.resolve_left list⟩
  | @inverseManyToMany name model peer =>
    rw [List.mem_singleton] at hm
    subst hm
    simp only [Member.plain, List.mem_cons, List.mem_nil_iff, or_false] at ht
    rcases ht with rfl | rfl | rfl
    · exact absurd hb (backtick_not_mem_identifier _)
    · rw [String.toList_append, List.mem_append] at hb
      exact ⟨model, rfl, hb.resolve_left list⟩
    · simp only [String.toList_append, List.mem_append, comment, point, backtick_not_mem_identifier,
        false_or, or_false] at hb
      exact ⟨model, rfl, hb⟩

/-- Without tags, a struct has no backtick but those of its class, its table and the models referred to. -/
theorem backtick_of_untagged {e : Entity} {text : String} (h : (render .untagged e).outcome = .ok text)
    (hb : '`' ∈ text.toList) :
    '`' ∈ e.className.toList ∨ '`' ∈ e.table.toList ∨
      ∃ item ∈ e.items, ∃ model, item.relatedModel = some model ∧ '`' ∈ model.toList := by
  have written := h
  rw [outcome_render] at written
  obtain ⟨own, run, -⟩ := map_eq_ok_iff.mp written
  obtain ⟨ls, outcome, lines⟩ := @lines_of_render .untagged e own (mapM_eq_ok_iff.mp run)
  rw [outcome] at h
  cases h
  rcases mem_unlines hb with hb | ⟨l, hl, hb⟩
  · exact absurd hb (by decide)
  · simp only [structLines, List.mem_append, List.mem_cons, List.mem_map, List.mem_nil_iff, or_false] at hl
    rcases hl with (rfl | ⟨l, hl, rfl⟩) | rfl | rfl | rfl | rfl | rfl | rfl
    · exact .inl (mem_between (by decide) (by decide) hb)
    · rw [String.toList_append, List.mem_append] at hb
      obtain ⟨m, hm, untagged⟩ := exists_of_mem_forall₂ lines hl
      obtain ⟨text, ht, hb⟩ := mem_plain_of_written untagged (by decide) (hb.resolve_left (by decide))
      obtain ⟨ms, hms, hm⟩ := List.mem_flatten.mp hm
      obtain ⟨item, hi, declared⟩ := exists_of_mem_mapM run hms
      exact .inr (.inr ⟨item, hi, backtick_mem_relatedModel declared hm ht hb⟩)
    · exact absurd hb (by decide)
    · exact absurd hb (by decide)
    · exact .inl (mem_between (by decide) (by decide) hb)
    · exact .inr (.inl (mem_between (by decide) (by decide) hb))
    · exact absurd hb (by decide)
    · exact absurd hb (by decide)

end EntityGen.Go
