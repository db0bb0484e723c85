import EntityGen.Proofs.Render.Go.Tags
import EntityGen.Proofs.Text.Separated

/-!
The line of a stored field. Its member is put together from what the kind asks for and what the field does
(`eq_of_columnMember`). The storage tag comes first among the tags and is read back item by item (`storageItems`); the
validation tag comes last, and its text can be told from the line whatever is in it (`validation_of_line_eq`). -/
namespace EntityGen.Go
open Text

/-- Tags for the storage and for a validator. -/
def Options.tagged : Options := { storageTags := true, validationTags := true }

/-! ### Reading a line -/

/-- The items of the storage tag: the text between the quotes behind the first backtick of a line, if a storage tag
stands there, cut at the semicolons. -/
def storageItems (line : String) : List String :=
  match "`gorm:\"".toList.isPrefixOf? (line.toList.dropWhile (· != '`')) with
  | some rest => cutAt ';' (String.ofList (rest.takeWhile (· != '"')))
  | none => []

theorem storageItems_of_untagged {front : String} (h : '`' ∉ front.toList) : storageItems front = [] := by
  have none : front.toList.dropWhile (· != '`') = [] := by simpa using dropWhile_of_not_mem h []
  rw [storageItems, none]
  rfl

theorem storageItems_of_validation {front : String} (h : '`' ∉ front.toList) (rest : String) :
    storageItems (front ++ "`validate:" ++ rest) = [] := by
  rw [storageItems, String.append_assoc, String.toList_append, dropWhile_of_not_mem h, String.toList_append]
  rfl

theorem storageItems_of_storage {front text : String} (h : '`' ∉ front.toList) (quoted : '"' ∉ text.toList)
    (rest : String) : storageItems (front ++ "`gorm:\"" ++ text ++ "\"" ++ rest) = cutAt ';' text := by
  have tag : "`gorm:\"".toList.isPrefixOf?
      ((front ++ "`gorm:\"" ++ text ++ "\"" ++ rest).toList.dropWhile (· != '`')) =
      some (text.toList ++ '"' :: rest.toList) := by
    rw [List.isPrefixOf?_eq_some_iff_append_eq]
    simp only [String.toList_append, List.append_assoc]
    rw [dropWhile_of_not_mem h]
    rfl
  rw [storageItems, tag]
  simp [takeWhile_of_not_mem quoted]

theorem storageItems_line {identifier type : String} {storage : List String} (hi : '`' ∉ identifier.toList)
    (ht : '`' ∉ type.toList) (quoted : ∀ part ∈ storage, '"' ∉ part.toList) (validation : List String) :
    storageItems ((Member.tagged identifier type storage validation).line .tagged) =
      storage.flatMap (cutAt ';') := by
  have columns : '`' ∉ (firstColumns identifier type).toList := fun h =>
    (mem_firstColumns (by decide) h).elim hi ht
  have front : '`' ∉ (firstColumns identifier type ++ " ").toList := by simpa using columns
  have text : '"' ∉ (sepBy ";" storage).toList := not_mem_sepBy (by decide) quoted
  have written := written_line .tagged (.tagged identifier type storage validation)
  generalize (Member.tagged identifier type storage validation).line .tagged = line at written
  have absent (h : ¬ (Options.tagged.storageTags = true ∧ storage ≠ [])) : storage = [] :=
    not_not.mp fun some => h ⟨rfl, some⟩
  cases written with
  | untagged hs hv =>
    rw [absent hs]
    refine storageItems_of_untagged fun h => columns ?_
    rw [String.toList_ofList] at h
    exact trimEnd_subset _ h
  | validation hs hv =>
    have cut : firstColumns identifier type ++ " `" ++ validationTag validation ++ "`" =
        firstColumns identifier type ++ " " ++ "`validate:" ++ ("\"" ++ sepBy "," validation ++ "\"`") := by
      simp [← String.toList_inj, validationTag]
    rw [absent hs, cut, storageItems_of_validation front]
    rfl
  | storage hs hv =>
    have cut : firstColumns identifier type ++ " `" ++ storageTag storage ++ "`" =
        firstColumns identifier type ++ " " ++ "`gorm:\"" ++ sepBy ";" storage ++ "\"" ++ "`" := by
      simp [← String.toList_inj, storageTag]
    rw [cut, storageItems_of_storage front text]
    exact cutAt_sepBy hs.2
  | both hs hv =>
    have cut : firstColumns identifier type ++ " `" ++ storageTag storage ++ " " ++ validationTag validation ++ "`" =
        firstColumns identifier type ++ " " ++ "`gorm:\"" ++ sepBy ";" storage ++ "\"" ++
          (" " ++ validationTag validation ++ "`") := by
      simp [← String.toList_inj, storageTag]
    rw [cut, storageItems_of_storage front text]
    exact cutAt_sepBy hs.2

/-- What stands in a line before the text of its validation tag. -/
def beforeValidation (options : Options) (identifier type : String) (storage : List String) : String :=
  firstColumns identifier type ++ " `" ++
    (if options.storageTags = true ∧ storage ≠ [] then storageTag storage ++ " " else "") ++ "validate:\""

section Validation
variable {options : Options} {identifier type : String} {storage : List String}

/-- The validation tag is the last thing in a line, behind the same text whatever it holds. -/
theorem line_of_validation (validates : options.validationTags = true) {validation : List String}
    (some : validation ≠ []) :
    (Member.tagged identifier type storage validation).line options =
      beforeValidation options identifier type storage ++ sepBy "," validation ++ "\"`" := by
  have written := written_line options (.tagged identifier type storage validation)
  generalize (Member.tagged identifier type storage validation).line options = line at written
  cases written with
  | untagged _ hv => exact absurd ⟨validates, some⟩ hv
  | storage _ hv => exact absurd ⟨validates, some⟩ hv
  | validation hs =>
    rw [beforeValidation, if_neg hs]
    simp [← String.toList_inj, validationTag]
  | both hs =>
    rw [beforeValidation, if_pos hs]
    simp [← String.toList_inj, validationTag]

theorem length_line_le :
    ((Member.tagged identifier type storage []).line options).length ≤
      (beforeValidation options identifier type storage).length := by
  have written := written_line options (.tagged identifier type storage [])
  generalize (Member.tagged identifier type storage []).line options = line at written
  have mark : "`".length = 1 := by decide
  have key : "validate:\"".length = 10 := by decide
  cases written with
  | untagged hs =>
    obtain ⟨blanks, whole, -⟩ := exists_eq_trimEnd_append (firstColumns identifier type).toList
    have shorter := congrArg List.length whole
    rw [List.length_append, String.length_toList] at shorter
    simp only [beforeValidation, String.length_append, String.length_ofList]
    omega
  | storage hs =>
    rw [beforeValidation, if_pos hs]
    simp only [String.length_append, mark, key]
    omega
  | validation _ hv => exact absurd rfl hv.2
  | both _ hv => exact absurd rfl hv.2

/-- A line tells the text of its validation tag from any other. -/
theorem validation_of_line_eq (validates : options.validationTags = true) {first second : List String}
    (same : (Member.tagged identifier type storage first).line options =
      (Member.tagged identifier type storage second).line options) :
    (first = [] ↔ second = []) ∧ sepBy "," first = sepBy "," second := by
  have longer {validation : List String} (some : validation ≠ []) :
      (Member.tagged identifier type storage []).line options ≠
        (Member.tagged identifier type storage validation).line options := by
    intro same
    have short := @length_line_le options identifier type storage
    have mark : "\"`".length = 2 := by decide
    rw [same, line_of_validation validates some, String.length_append, String.length_append, mark] at short
    omega
  by_cases hf : first = []
  · subst hf
    have hs : second = [] := not_not.mp fun h => longer h same
    simp [hs]
  · have hs : second ≠ [] := by
      rintro rfl
      exact longer hf same.symm
    rw [line_of_validation validates hf, line_of_validation validates hs, String.append_left_inj,
      String.append_right_inj] at same
    exact ⟨iff_of_false hf hs, same⟩

end Validation

/-! ### The member of a stored field -/

/-- The part of the storage tag that the kind of a field asks for. -/
def asked (c : Column) : Option String :=
  if c.kind = .char then c.maxLength.map fun n => "type:varchar(" ++ toString n.toNat ++ ")"
  else if c.kind.isPositive then some ("check:" ++ c.column ++ ">=0")
  else (Mapping.go c.kind).storage

theorem storage_of_isPositive {kind : Kind} :
    kind.isPositive = true → (Mapping.go kind).storage = some ("check:" ++ Slot.column.mark ++ ">=0") := by
  cases kind <;> decide

/-- Only the texts of bounded texts and of non-negative integers depend on the field. -/
theorem brace_not_mem_storage {kind : Kind} :
    kind.isRelation = false → kind ≠ .char → kind.isPositive = false →
      ∀ t ∈ (Mapping.go kind).storage, '\x7b' ∉ t.toList := by
  cases kind <;> decide

theorem filled_bare {template : Option String} (h : ∀ t ∈ template, '\x7b' ∉ t.toList) (slots : Slots)
    (field : String) : filled template slots field = .ok template.toList := by
  cases template with
  | none => rfl
  | some t =>
    rw [filled_some, Template.fill_bare (h t rfl)]
    rfl

theorem filled_storage {c : Column} (h : Complete (.column c)) :
    filled (Mapping.go c.kind).storage (columnSlots c) c.name = .ok (asked c).toList := by
  obtain ⟨stored, length⟩ := h
  by_cases char : c.kind = .char
  · obtain ⟨n, hn⟩ := Option.isSome_iff_exists.mp (length char)
    have text : Template.fill ("type:varchar(" ++ Slot.maxLength.mark ++ ")") (columnSlots c) c.name = _ :=
      Template.fill_around_of_some (by decide) (by decide)
        (show (columnSlots c).value? .maxLength = some (toString n.toNat) by simp [Slots.value?, columnSlots, hn])
    simp only [asked, char, hn, Mapping.go, filled_some, text]
    rfl
  · by_cases positive : c.kind.isPositive = true
    · have text : Template.fill ("check:" ++ Slot.column.mark ++ ">=0") (columnSlots c) c.name = _ :=
        Template.fill_around_of_some (by decide) (by decide)
          (show (columnSlots c).value? .column = some c.column by rfl)
      have template := storage_of_isPositive positive
      simp only [asked, char, positive, template, filled_some, text]
      rfl
    · have bare := brace_not_mem_storage stored char (Bool.eq_false_iff.mpr positive)
      simp only [asked, char, positive]
      exact filled_bare bare _ _

/-- No kind's validation depends on the field. -/
theorem brace_not_mem_validation (kind : Kind) : ∀ t ∈ (Mapping.go kind).validation, '\x7b' ∉ t.toList := by
  cases kind <;> decide

theorem complete_of_columnMember {c : Column} {m : Member} (h : columnMember c = .ok m) : Complete (.column c) :=
  exists_columnMember_iff_complete.mp ⟨m, h⟩

/-- The member of a stored field: what its kind asks for, and then what its flags ask for. -/
theorem eq_of_columnMember {c : Column} {m : Member} (h : columnMember c = .ok m) :
    m = .tagged (Identifier.go c.name) (Mapping.go c.kind).type ((asked c).toList ++ columnStorage c)
      ((Mapping.go c.kind).validation.toList ++ columnValidation c) := by
  obtain ⟨storage, hs, validation, hv, type, -, rfl⟩ := columnMember_eq_ok_iff.mp h
  obtain ⟨_, _, typed⟩ := type_of_columnMember h
  rw [filled_bare (brace_not_mem_validation c.kind)] at hv
  cases hs.symm.trans (filled_storage (complete_of_columnMember h))
  cases hv
  injection typed with _ typed
  rw [typed]

/-- The word for when a stored value is set. -/
def generationWords : Generation → List String
  | .setOnCreate => ["autoCreateTime"]
  | .setOnUpdate => ["autoUpdateTime"]
  | _ => []

theorem generationWords_eq (g : Generation) :
    generationWords g =
      if g = .setOnCreate then ["autoCreateTime"] else if g = .setOnUpdate then ["autoUpdateTime"] else [] := by
  cases g <;> rfl

theorem columnStorage_eq (c : Column) :
    columnStorage c =
      onlyIf (c.primaryKey && (Mapping.go c.kind).storage != some "primaryKey") "primaryKey" ++
        generationWords c.generation ++ onlyIf (!c.nullable) "not null" ++ onlyIf c.indexed "index" ++
        onlyIf c.unique "unique" := rfl

/-- The item for the length of a bounded text. -/
def maxItems (c : Column) : List String :=
  if c.kind = .char then c.maxLength.toList.map fun n => "max=" ++ toString n.toNat else []

theorem columnValidation_eq (c : Column) :
    columnValidation c = maxItems c ++ c.rules.filterMap oneOf? ++ onlyIf c.required "required" := by
  cases hk : c.kind <;> cases hl : c.maxLength <;> simp [columnValidation, maxItems, hk, hl]

end EntityGen.Go
