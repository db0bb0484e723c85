import EntityGen.Proofs.Render.Go.ColumnLines
import Mathlib.Data.List.Nodup

/-!
What the line of a stored field tells of it. The storage tag is a list of items: those that the kind asks for, and a
word for each flag that is set. The items of the kind are as many as the kind wants, whatever the field, so that the
two parts come apart again, and with them every constraint (`line_eq_iff_constraints`). -/
namespace EntityGen.Go
open Text

/-! ### Items of the storage tag -/

/-- The column can stand in a storage tag: it neither ends an item nor the tag. -/
def Taggable (column : String) : Prop := ';' ∉ column.toList ∧ '"' ∉ column.toList

/-- The words for what a field asks of the storage besides what its kind does. -/
def storageWords : List String :=
  ["primaryKey", "autoCreateTime", "autoUpdateTime", "not null", "index", "unique"]

theorem onlyIf_sublist (wanted : Bool) (part : String) : (onlyIf wanted part).Sublist [part] := by
  cases wanted <;> simp

theorem columnStorage_sublist (c : Column) : (columnStorage c).Sublist storageWords := by
  have generated : (generationWords c.generation).Sublist ["autoCreateTime", "autoUpdateTime"] := by
    cases c.generation <;> decide
  rw [columnStorage_eq]
  exact ((((onlyIf_sublist _ _).append generated).append (onlyIf_sublist _ _)).append (onlyIf_sublist _ _)).append
    (onlyIf_sublist _ _)

theorem storage_eq_primaryKey_iff {kind : Kind} :
    (Mapping.go kind).storage = some "primaryKey" ↔ kind.isAuto = true := by
  cases kind <;> decide

theorem mem_columnStorage {c : Column} {word : String} :
    word ∈ columnStorage c ↔
      c.primaryKey = true ∧ c.kind.isAuto = false ∧ word = "primaryKey" ∨
      c.generation = .setOnCreate ∧ word = "autoCreateTime" ∨
      c.generation = .setOnUpdate ∧ word = "autoUpdateTime" ∨
      c.nullable = false ∧ word = "not null" ∨
      c.indexed = true ∧ word = "index" ∨
      c.unique = true ∧ word = "unique" := by
  have auto : ((Mapping.go c.kind).storage != some "primaryKey") = !c.kind.isAuto := by
    rw [Bool.eq_iff_iff, bne_iff_ne, Ne, storage_eq_primaryKey_iff]
    simp
  have mem_onlyIf (wanted : Bool) (part : String) : word ∈ onlyIf wanted part ↔ wanted = true ∧ word = part := by
    cases wanted <;> simp
  have generated : word ∈ generationWords c.generation ↔
      c.generation = .setOnCreate ∧ word = "autoCreateTime" ∨
        c.generation = .setOnUpdate ∧ word = "autoUpdateTime" := by
    cases c.generation <;> simp [generationWords]
  simp only [columnStorage_eq, List.mem_append, mem_onlyIf, generated, auto, Bool.and_eq_true, Bool.not_eq_true',
    and_assoc, or_assoc]

/-- Parts of the storage tag that a kind may ask for. They are as many items as the template of the kind, and they come
apart from the words of a field: each has a colon, which no such word has, except the primary key of an identity that
counts up. -/
structure Separable (kind : Kind) (parts : List String) : Prop where
  unquoted : ∀ part ∈ parts, '"' ∉ part.toList
  length : (parts.flatMap (cutAt ';')).length = ((Mapping.go kind).storage.toList.flatMap (cutAt ';')).length
  nodup : (parts.flatMap (cutAt ';')).Nodup
  apart : ∀ item ∈ parts.flatMap (cutAt ';'), kind.isAuto = true ∧ item = "primaryKey" ∨ ':' ∈ item.toList

theorem separable_singleton {kind : Kind} {part : String}
    (single : ((Mapping.go kind).storage.toList.flatMap (cutAt ';')).length = 1) (unended : ';' ∉ part.toList)
    (unquoted : '"' ∉ part.toList) (colon : ':' ∈ part.toList) : Separable kind [part] := by
  have whole : [part].flatMap (cutAt ';') = [part] :=
    flatMap_cutAt_of_not_mem (List.forall_mem_singleton.mpr unended)
  refine ⟨List.forall_mem_singleton.mpr unquoted, ?_, ?_, ?_⟩
  · rw [whole, single]
    rfl
  · rw [whole]
    exact List.nodup_singleton part
  · rw [whole]
    exact List.forall_mem_singleton.mpr (.inr colon)

/-- The text for unique identifiers is two items. -/
theorem separable_storage (kind : Kind) : Separable kind (Mapping.go kind).storage.toList := by
  constructor <;> cases kind <;> decide +kernel

theorem not_mem_toString {c : Char} (h : c.isDigit = false) (n : Nat) : c ∉ (toString n).toList := by
  intro hc
  rw [Nat.toString_eq_repr, Nat.toList_repr] at hc
  exact absurd (Nat.isDigit_of_mem_toDigits (by decide) (by decide) hc) (Bool.eq_false_iff.mp h)

theorem separable_asked {c : Column} (complete : Complete (.column c)) (hc : Taggable c.column) :
    Separable c.kind (asked c).toList := by
  unfold asked
  split
  next char =>
    obtain ⟨n, hn⟩ := Option.isSome_iff_exists.mp (complete.2 char)
    have single : ((Mapping.go .char).storage.toList.flatMap (cutAt ';')).length = 1 := by decide +kernel
    have unended := not_mem_toString (show ';'.isDigit = false by decide) n.toNat
    have unquoted := not_mem_toString (show '"'.isDigit = false by decide) n.toNat
    rw [hn, char]
    exact separable_singleton single (by simpa using unended) (by simpa using unquoted) (by simp)
  next =>
    split
    next positive =>
      have single : ((Mapping.go c.kind).storage.toList.flatMap (cutAt ';')).length = 1 := by
        rw [storage_of_isPositive positive]
        decide +kernel
      exact separable_singleton single (by simpa using hc.1) (by simpa using hc.2) (by simp)
    next => exact separable_storage c.kind

theorem mem_storageWords {c : Column} {word : String} (h : word ∈ columnStorage c) : word ∈ storageWords :=
  (columnStorage_sublist c).subset h

theorem flatMap_cutAt_storage (c : Column) :
    ((asked c).toList ++ columnStorage c).flatMap (cutAt ';') =
      (asked c).toList.flatMap (cutAt ';') ++ columnStorage c := by
  have words : ∀ word ∈ storageWords, ';' ∉ word.toList := by decide
  rw [List.flatMap_append, flatMap_cutAt_of_not_mem fun word h => words word (mem_storageWords h)]

/-- Parts that a kind may ask for are told apart by their items. -/
theorem eq_of_flatMap_cutAt {first second : Option String}
    (h : first.toList.flatMap (cutAt ';') = second.toList.flatMap (cutAt ';')) : first = second := by
  cases first with
  | none =>
    cases second with
    | none => rfl
    | some part => simp [(cutAt_ne_nil ';' part).symm] at h
  | some part =>
    cases second with
    | none => simp [cutAt_ne_nil] at h
    | some other =>
      have same : cutAt ';' part = cutAt ';' other := by simpa using h
      rw [cutAt_injective same]

theorem storageItems_of_columnMember {c : Column} {m : Member} (h : columnMember c = .ok m)
    (hc : Taggable c.column) :
    storageItems (m.line .tagged) = (asked c).toList.flatMap (cutAt ';') ++ columnStorage c := by
  have separable := separable_asked (complete_of_columnMember h) hc
  have words : ∀ word ∈ storageWords, '"' ∉ word.toList := by decide
  have unquoted : ∀ part ∈ (asked c).toList ++ columnStorage c, '"' ∉ part.toList := by
    intro part hp
    rcases List.mem_append.mp hp with hp | hp
    · exact separable.unquoted part hp
    · exact words part (mem_storageWords hp)
  rw [eq_of_columnMember h, storageItems_line (backtick_not_mem_identifier _) (backtick_not_mem_type _) unquoted,
    flatMap_cutAt_storage]

theorem asked_of_isAuto {c : Column} (h : c.kind.isAuto = true) : asked c = some "primaryKey" := by
  have char : c.kind ≠ .char := by
    intro hk
    exact absurd (hk ▸ h) (by decide)
  have positive : c.kind.isPositive = false := by
    cases hk : c.kind <;> first | rfl | exact absurd (hk ▸ h) (by decide)
  rw [asked, if_neg char, if_neg (Bool.eq_false_iff.mp positive), storage_eq_primaryKey_iff.mpr h]

theorem nodup_items {c : Column} (separable : Separable c.kind (asked c).toList) :
    ((asked c).toList.flatMap (cutAt ';') ++ columnStorage c).Nodup := by
  have words : storageWords.Nodup := by decide
  have colonless : ∀ word ∈ storageWords, ':' ∉ word.toList := by decide
  refine List.nodup_append.mpr ⟨separable.nodup, words.sublist (columnStorage_sublist c), ?_⟩
  rintro item asks word flagged rfl
  rcases separable.apart item asks with ⟨auto, rfl⟩ | colon
  · simp [mem_columnStorage, auto] at flagged
  · exact colonless item (mem_storageWords flagged) colon

theorem primaryKey_mem_items {c : Column} (separable : Separable c.kind (asked c).toList) :
    "primaryKey" ∈ (asked c).toList.flatMap (cutAt ';') ++ columnStorage c ↔
      (c.primaryKey || c.kind.isAuto) = true := by
  cases auto : c.kind.isAuto with
  | true =>
    have alone : cutAt ';' "primaryKey" = ["primaryKey"] := cutAt_of_not_mem (by decide)
    simp [asked_of_isAuto auto, alone]
  | false =>
    have elsewhere : "primaryKey" ∉ (asked c).toList.flatMap (cutAt ';') := by
      intro asks
      rcases separable.apart _ asks with ⟨auto', -⟩ | colon
      · exact absurd (auto ▸ auto') Bool.false_ne_true
      · exact absurd colon (by decide)
    simp [elsewhere, mem_columnStorage, auto]

/-- What the storage tag of a line is for a field: no item stands there twice, and the primary key is an item exactly
of a field that is one or that counts up. -/
structure StorageOf (c : Column) (line : String) : Prop where
  nodup : (storageItems line).Nodup
  primaryKey : (storageItems line).count "primaryKey" = if c.primaryKey || c.kind.isAuto then 1 else 0

theorem storageOf_line {c : Column} {m : Member} (h : columnMember c = .ok m) (hc : Taggable c.column) :
    StorageOf c (m.line .tagged) := by
  have items := storageItems_of_columnMember h hc
  have separable := separable_asked (complete_of_columnMember h) hc
  have distinct := nodup_items separable
  constructor
  · rw [items]
    exact distinct
  · rw [items, distinct.count]
    simp only [primaryKey_mem_items separable]

/-! ### What is told apart -/

/-- Two fields of one kind agree on what a line can tell of fields of that kind. -/
structure SameConstraints (c d : Column) : Prop where
  nullable : c.nullable = d.nullable
  indexed : c.indexed = d.indexed
  unique : c.unique = d.unique
  required : c.required = d.required
  setOnCreate : c.generation = .setOnCreate ↔ d.generation = .setOnCreate
  setOnUpdate : c.generation = .setOnUpdate ↔ d.generation = .setOnUpdate
  primaryKey : c.kind.isAuto = false → c.primaryKey = d.primaryKey
  maxLength : c.kind = .char → c.maxLength = d.maxLength
  column : c.kind.isPositive = true → c.column = d.column

/-- The items of the storage tag come apart into those of the kind and those of the field. -/
theorem storage_of_line_eq {c d : Column} {m n : Member} (hm : columnMember c = .ok m) (hn : columnMember d = .ok n)
    (kind : c.kind = d.kind) (hc : Taggable c.column) (hd : Taggable d.column)
    (same : m.line .tagged = n.line .tagged) :
    (asked c).toList.flatMap (cutAt ';') = (asked d).toList.flatMap (cutAt ';') ∧
      columnStorage c = columnStorage d := by
  have separable := separable_asked (complete_of_columnMember hm) hc
  have separable' := separable_asked (complete_of_columnMember hn) hd
  have items := congrArg storageItems same
  rw [storageItems_of_columnMember hm hc, storageItems_of_columnMember hn hd] at items
  -- The kind alone says how many items come first, so both lists are cut at the same place.
  refine List.append_inj items ?_
  rw [separable.length, separable'.length, kind]

/-- Numbers are told by their decimal digits. -/
theorem eq_of_toString_eq {n k : Nat} (h : toString n = toString k) : n = k := by
  have digits := congrArg String.toList h
  rw [Nat.toString_eq_repr, Nat.toString_eq_repr, Nat.toList_repr, Nat.toList_repr] at digits
  rw [← @Nat.ofDigitChars_ten_toDigits n, digits, Nat.ofDigitChars_ten_toDigits]

/-- The parts of a kind hold the value of the field that the kind asks for, and nothing else of the field. -/
theorem asked_eq_iff {c d : Column} (complete : Complete (.column c)) (complete' : Complete (.column d))
    (kind : c.kind = d.kind) :
    asked c = asked d ↔
      (c.kind = .char → c.maxLength = d.maxLength) ∧ (c.kind.isPositive = true → c.column = d.column) := by
  unfold asked
  rw [← kind]
  split
  next char =>
    obtain ⟨n, first⟩ := Option.isSome_iff_exists.mp (complete.2 char)
    obtain ⟨k, second⟩ := Option.isSome_iff_exists.mp (complete'.2 (kind ▸ char))
    have signed : Kind.isPositive .char = false := rfl
    have digits : toString n.toNat = toString k.toNat ↔ n = k :=
      ⟨fun same => UInt32.toNat_inj.mp (eq_of_toString_eq same), fun same => by rw [same]⟩
    simp only [char, first, second, signed, Option.map_some, Option.some.injEq, String.append_left_inj,
      String.append_right_inj, digits, Bool.false_eq_true, false_implies, true_implies, and_true]
  next char =>
    split
    next positive => simp [char, positive]
    next positive => simp [char, positive]

/-- Whether there is a last item can be told from all items together. -/
theorem onlyIf_of_sepBy {parts : List String} {wanted wanted' : Bool} {last : String}
    (none : parts ++ onlyIf wanted last = [] ↔ parts ++ onlyIf wanted' last = [])
    (same : sepBy "," (parts ++ onlyIf wanted last) = sepBy "," (parts ++ onlyIf wanted' last)) :
    wanted = wanted' := by
  have longer (h : parts ≠ []) : sepBy "," (parts ++ [last]) ≠ sepBy "," parts := by
    intro same
    have lengths := congrArg String.length same
    have comma : ",".length = 1 := by decide
    rw [sepBy_append "," h (List.cons_ne_nil _ _), String.length_append, String.length_append, comma] at lengths
    omega
  cases wanted <;> cases wanted' <;> simp at none same ⊢
  · exact longer none same.symm
  · exact longer none same

theorem maxItems_eq {c d : Column} (kind : c.kind = d.kind) (maxLength : c.kind = .char → c.maxLength = d.maxLength) :
    maxItems c = maxItems d := by
  unfold maxItems
  rw [← kind]
  split
  next char => rw [maxLength char]
  next => rfl

/-- The words of a field say what its flags are, and nothing else of it. -/
theorem columnStorage_eq_iff {c d : Column} (kind : c.kind = d.kind) :
    columnStorage c = columnStorage d ↔
      (c.kind.isAuto = false → c.primaryKey = d.primaryKey) ∧
      (c.generation = .setOnCreate ↔ d.generation = .setOnCreate) ∧
      (c.generation = .setOnUpdate ↔ d.generation = .setOnUpdate) ∧
      c.nullable = d.nullable ∧ c.indexed = d.indexed ∧ c.unique = d.unique := by
  constructor
  · intro same
    have told (word : String) : word ∈ columnStorage c ↔ word ∈ columnStorage d := by rw [same]
    have key := told "primaryKey"
    have created := told "autoCreateTime"
    have updated := told "autoUpdateTime"
    have notNull := told "not null"
    have index := told "index"
    have unique := told "unique"
    simp only [mem_columnStorage, ← kind, String.reduceEq, and_true, and_false, or_false, false_or]
      at key created updated notNull index unique
    refine ⟨fun single => ?_, created, updated, ?_, Bool.eq_iff_iff.mpr index, Bool.eq_iff_iff.mpr unique⟩
    · exact Bool.eq_iff_iff.mpr (by simpa only [single, and_true] using key)
    · exact Bool.eq_iff_iff.mpr (by simpa only [Bool.not_eq_false] using not_congr notNull)
  · intro h
    obtain ⟨primaryKey, created, updated, nullable, indexed, unique⟩ := h
    have generated : generationWords c.generation = generationWords d.generation := by
      rw [generationWords_eq, generationWords_eq]
      simp only [created, updated]
    have key : (c.primaryKey && (Mapping.go c.kind).storage != some "primaryKey") =
        (d.primaryKey && (Mapping.go c.kind).storage != some "primaryKey") := by
      cases auto : c.kind.isAuto with
      | false => rw [primaryKey auto]
      | true => simp [storage_eq_primaryKey_iff.mpr auto]
    rw [columnStorage_eq, columnStorage_eq, ← kind, key, generated, nullable, indexed, unique]

/-- **A line tells the constraints of a field.** Of two fields of one kind with one identifier and the same rules,
whose columns can stand in a tag, the lines are equal exactly if the fields agree on everything that the storage or a
validator is told of fields of that kind. In each of the lines no item of the storage tag stands twice, and the
primary key is an item exactly of a field that is one or that counts up. -/
theorem line_eq_iff_constraints {c d : Column} {m n : Member} (hm : columnMember c = .ok m)
    (hn : columnMember d = .ok n) (kind : c.kind = d.kind)
    (identifier : Identifier.go c.name = Identifier.go d.name) (rules : c.rules = d.rules)
    (hc : Taggable c.column) (hd : Taggable d.column) :
    (m.line .tagged = n.line .tagged ↔ SameConstraints c d) ∧
      StorageOf c (m.line .tagged) ∧ StorageOf d (n.line .tagged) := by
  have complete := complete_of_columnMember hm
  have complete' := complete_of_columnMember hn
  refine ⟨⟨fun same => ?_, fun same => ?_⟩, storageOf_line hm hc, storageOf_line hn hd⟩
  · obtain ⟨items, words⟩ := storage_of_line_eq hm hn kind hc hd same
    have parts := eq_of_flatMap_cutAt items
    obtain ⟨maxLength, column⟩ := (asked_eq_iff complete complete' kind).mp parts
    obtain ⟨primaryKey, setOnCreate, setOnUpdate, nullable, indexed, unique⟩ := (columnStorage_eq_iff kind).mp words
    rw [eq_of_columnMember hm, eq_of_columnMember hn, parts, words, ← kind, identifier, columnValidation_eq,
      columnValidation_eq, ← rules, ← maxItems_eq kind maxLength] at same
    obtain ⟨none, text⟩ := validation_of_line_eq rfl same
    simp only [← List.append_assoc] at none text
    have required := onlyIf_of_sepBy none text
    exact { nullable, indexed, unique, required, setOnCreate, setOnUpdate, primaryKey, maxLength, column }
  · have parts := (asked_eq_iff complete complete' kind).mpr ⟨same.maxLength, same.column⟩
    have words := (columnStorage_eq_iff kind).mpr
      ⟨same.primaryKey, same.setOnCreate, same.setOnUpdate, same.nullable, same.indexed, same.unique⟩
    rw [eq_of_columnMember hm, eq_of_columnMember hn, parts, words, kind, identifier, columnValidation_eq,
      columnValidation_eq, rules, same.required, maxItems_eq kind same.maxLength]

/-- A title, and the same field with a shorter bound and under another name of the same identifier. -/
theorem line_eq_iff_constraints_title :
    let title : Column :=
      ⟨"main_title", "main_title", false, .char, .string, .none, [], some 80, false, true, false, true⟩
    let heading : Column := { title with name := "mainTitle", column := "heading", maxLength := some 40 }
    ∃ m n, columnMember title = .ok m ∧ columnMember heading = .ok n ∧ title.kind = heading.kind ∧
      Identifier.go title.name = Identifier.go heading.name ∧ title.rules = heading.rules ∧
      Taggable title.column ∧ Taggable heading.column ∧
      (m.line .tagged = n.line .tagged ↔ SameConstraints title heading) ∧
      StorageOf title (m.line .tagged) ∧ StorageOf heading (n.line .tagged) := by
  intro title heading
  have identifier : Identifier.go title.name = Identifier.go heading.name := by decide +kernel
  have hc : Taggable title.column := ⟨by decide, by decide⟩
  have hd : Taggable heading.column := ⟨by decide, by decide⟩
  obtain ⟨m, hm⟩ : ∃ m, columnMember title = .ok m := exists_columnMember_iff_complete.mpr ⟨rfl, fun _ => rfl⟩
  obtain ⟨n, hn⟩ : ∃ n, columnMember heading = .ok n := exists_columnMember_iff_complete.mpr ⟨rfl, fun _ => rfl⟩
  exact ⟨m, n, hm, hn, rfl, identifier, rfl, hc, hd, line_eq_iff_constraints hm hn rfl identifier rfl hc hd⟩

end EntityGen.Go
