import EntityGen.Proofs.Identifier.Canonical

/-!
What casing keeps. Cutting a name into words loses nothing but the separators, and casing a word changes nothing
but the case of its letters, so the identifiers of an ASCII name hold its letters and digits in order
(`caseless_go`, `caseless_propertyName`). A Kotlin identifier has backticks only around a keyword
(`kotlin_eq_quoted`), and that of a canonical name gives the name again (`snake_propertyName`), with or without
them (`kotlin_injective`). -/
namespace EntityGen.Text

/-- A text without the case of its ASCII letters. -/
def caseless (s : List Char) : List Char := s.map Char.toLower

@[simp] theorem caseless_append (s t : List Char) : caseless (s ++ t) = caseless s ++ caseless t :=
  List.map_append

/-! ### Letters without their case -/

theorem toLower_of_ascii : ∀ n < 128,
    (Char.ofNat n).toUpper.toLower = (Char.ofNat n).toLower ∧
      (Char.ofNat n).toLower.toLower = (Char.ofNat n).toLower := by
  decide +kernel

section Ascii
variable {word : List Char}

theorem toLower_of_isAscii {c : Char} (h : isAscii c = true) :
    c.toUpper.toLower = c.toLower ∧ c.toLower.toLower = c.toLower := by
  have small : c.toNat < 128 := by simpa [isAscii] using h
  have casing := toLower_of_ascii c.toNat small
  rwa [Char.ofNat_toNat] at casing

theorem caseless_lowercase (h : ∀ c ∈ word, isAscii c = true) : caseless (lowercase word) = caseless word := by
  rw [lowercase_of_isAscii h, caseless, caseless, List.map_map]
  exact List.map_congr_left fun c hc => (toLower_of_isAscii (h c hc)).2

theorem caseless_capitalize (h : ∀ c ∈ word, isAscii c = true) : caseless (capitalize word) = caseless word := by
  cases word with
  | nil => rfl
  | cons c rest =>
    obtain ⟨hc, hr⟩ := List.forall_mem_cons.mp h
    have first : caseless (upper c) = caseless [c] := by
      rw [upper_of_isAscii hc]
      exact congrArg ([·]) (toLower_of_isAscii hc).1
    rw [capitalize, caseless_append, first, caseless_lowercase hr]
    rfl

end Ascii

theorem caseless_flatMap_capitalize {ws : List (List Char)} (h : ∀ word ∈ ws, ∀ c ∈ word, isAscii c = true) :
    caseless (ws.flatMap capitalize) = caseless ws.flatten := by
  induction ws with
  | nil => rfl
  | cons word ws ih =>
    obtain ⟨first, rest⟩ := List.forall_mem_cons.mp h
    rw [List.flatMap_cons, List.flatten_cons, caseless_append, caseless_append, caseless_capitalize first, ih rest]

/-! ### The words of an ASCII name -/

section Name
variable {name : List Char} (ascii : ∀ c ∈ name, isAscii c = true)
include ascii

theorem filter_isAlphanumeric_of_ascii : name.filter isAlphanumeric = name.filter Char.isAlphanum :=
  List.filter_congr fun c hc => isAlphanumeric_of_isAscii (ascii c hc)

theorem isAscii_of_mem_words : ∀ word ∈ words name, ∀ c ∈ word, isAscii c = true := by
  intro word hw c hc
  have kept : c ∈ name.filter isAlphanumeric := flatten_words name ▸ List.mem_flatten.mpr ⟨word, hw, hc⟩
  exact ascii c (List.mem_filter.mp kept).1

/-- The words of an ASCII name are its letters and digits. -/
theorem flatten_words_of_ascii : (words name).flatten = name.filter Char.isAlphanum := by
  rw [flatten_words, filter_isAlphanumeric_of_ascii ascii]

end Name

end EntityGen.Text

namespace EntityGen.Identifier
open Text

/-! ### Characters of identifiers -/

section Ascii
variable {name : String} (ascii : ∀ c ∈ name.toList, isAscii c = true)
include ascii

/-- A Go identifier is the letters and digits of its name. -/
theorem caseless_go : caseless (go name).toList = caseless (name.toList.filter Char.isAlphanum) := by
  rw [go, String.toList_ofList, caseless_flatMap_capitalize (isAscii_of_mem_words ascii),
    flatten_words_of_ascii ascii]

/-- So is what a Kotlin property is called. -/
theorem caseless_propertyName :
    caseless (propertyName name).toList = caseless (name.toList.filter Char.isAlphanum) := by
  have whole := flatten_words_of_ascii ascii
  have inside := isAscii_of_mem_words ascii
  rw [propertyName, String.toList_ofList, ← whole]
  generalize words name.toList = ws at inside
  cases ws with
  | nil => rfl
  | cons first rest =>
    obtain ⟨hf, hr⟩ := List.forall_mem_cons.mp inside
    rw [camel, List.flatten_cons, caseless_append, caseless_append, caseless_lowercase hf,
      caseless_flatMap_capitalize hr]

end Ascii

/-! ### Keywords between backticks -/

theorem backtick_not_mem_propertyName (name : String) : '`' ∉ (propertyName name).toList := by
  intro h
  exact absurd (wordlike_propertyName name _ h) (by decide)

theorem backtick_not_mem_keyword : ∀ keyword ∈ kotlinKeywords, '`' ∉ keyword.toList := by decide

/-- An identifier is a keyword between backticks, or what the property is called and no keyword. -/
theorem kotlin_eq_quoted (name : String) :
    propertyName name ∈ kotlinKeywords ∧ kotlin name = "`" ++ propertyName name ++ "`" ∨
      propertyName name ∉ kotlinKeywords ∧ kotlin name = propertyName name := by
  rw [kotlin_eq, quoteKeyword]
  by_cases keyword : propertyName name ∈ kotlinKeywords
  · exact .inl ⟨keyword, if_pos keyword⟩
  · exact .inr ⟨keyword, if_neg keyword⟩

/-- An identifier without its backticks. -/
def unquoted (identifier : String) : List Char := identifier.toList.filter (· ≠ '`')

/-- Without backticks it is what the property is called. -/
theorem unquoted_kotlin (name : String) : unquoted (kotlin name) = (propertyName name).toList := by
  have bare : (propertyName name).toList.filter (· ≠ '`') = (propertyName name).toList :=
    List.filter_eq_self.mpr fun c hc => decide_eq_true fun tick => backtick_not_mem_propertyName name (tick ▸ hc)
  rcases kotlin_eq_quoted name with ⟨-, quoted⟩ | ⟨-, plain⟩
  · rw [unquoted, quoted, String.toList_append, String.toList_append, List.filter_append, List.filter_append, bare]
    simp
  · rw [unquoted, plain, bare]

theorem kotlin_not_keyword (name : String) : kotlin name ∉ kotlinKeywords := by
  intro keyword
  rcases kotlin_eq_quoted name with ⟨-, quoted⟩ | ⟨unreserved, plain⟩
  · refine backtick_not_mem_keyword _ keyword ?_
    rw [quoted]
    simp
  · exact unreserved (plain ▸ keyword)

theorem keyword_of_backtick {name : String} (tick : '`' ∈ (kotlin name).toList) :
    ∃ keyword ∈ kotlinKeywords, kotlin name = "`" ++ keyword ++ "`" := by
  rcases kotlin_eq_quoted name with ⟨keyword, quoted⟩ | ⟨-, plain⟩
  · exact ⟨_, keyword, quoted⟩
  · exact absurd (plain ▸ tick) (backtick_not_mem_propertyName name)

/-! ### Back to the name -/

/-- What a Kotlin property is called gives its canonical name again. -/
theorem snake_propertyName {name : String} (h : Canonical name) :
    snake (propertyName name).toList = name.toList := by
  obtain ⟨ws, some_word, hw, spelled⟩ := h
  rw [propertyName, String.toList_ofList, spelled, words_intercalate some_word hw]
  obtain ⟨w, ws, rfl⟩ := List.exists_cons_of_ne_nil some_word
  obtain ⟨first, rest⟩ := List.forall_mem_cons.mp hw
  have chars := isWordChar_of_mem first
  rw [camel, lowercase_of_isWord chars, snake_append, snake_of_wordChars chars, snake_flatMap_capitalize rest]
  -- Behind the first word, every word follows an underscore.
  have behind := flatMap_underscore some_word
  rw [List.flatMap_cons, List.cons_append] at behind
  exact (List.cons.inj behind).2

theorem kotlin_injective {name other : String} (h : Canonical name) (ho : Canonical other)
    (same : kotlin name = kotlin other) : name = other := by
  have called : (propertyName name).toList = (propertyName other).toList := by
    rw [← unquoted_kotlin, ← unquoted_kotlin, same]
  rw [← String.toList_inj, ← snake_propertyName h, ← snake_propertyName ho, called]

/-- **Casing keeps characters, and names apart.** The identifiers of an ASCII name hold exactly its letters and
digits, in order and up to their case; in Kotlin, backticks aside. A Kotlin identifier is no keyword, and if it has
backticks, it is a keyword between them. Canonical names with the same Kotlin identifier are the same. -/
theorem casing_keeps_characters :
    (∀ name : String, (∀ c ∈ name.toList, isAscii c = true) →
      caseless (go name).toList = caseless (name.toList.filter Char.isAlphanum) ∧
      caseless (unquoted (kotlin name)) = caseless (name.toList.filter Char.isAlphanum)) ∧
    (∀ name : String, kotlin name ∉ kotlinKeywords ∧
      ('`' ∈ (kotlin name).toList → ∃ keyword ∈ kotlinKeywords, kotlin name = "`" ++ keyword ++ "`")) ∧
    ∀ name other : String, Canonical name → Canonical other → kotlin name = kotlin other → name = other := by
  refine ⟨fun name ascii => ⟨caseless_go ascii, ?_⟩, fun name => ⟨kotlin_not_keyword name, keyword_of_backtick⟩,
    fun name other h ho => kotlin_injective h ho⟩
  rw [unquoted_kotlin]
  exact caseless_propertyName ascii

/-- Humps and separators are lost without a letter. A keyword in backticks and the same word as the first of two
keep apart. -/
theorem casing_keeps_characters_package :
    caseless (go "_XMLHttp--requestB2b_").toList = "xmlhttprequestb2b".toList ∧
      (∃ keyword ∈ kotlinKeywords, kotlin "package" = "`" ++ keyword ++ "`") ∧
      kotlin "package" ≠ kotlin "package_name" := by
  obtain ⟨kept, quoted, apart⟩ := casing_keeps_characters
  have ascii : ∀ c ∈ "_XMLHttp--requestB2b_".toList, isAscii c = true := List.all_eq_true.mp (by decide)
  refine ⟨(kept _ ascii).1.trans (by decide), (quoted "package").2 (by decide +kernel), fun same => ?_⟩
  exact absurd (apart "package" "package_name" (by decide +kernel) (by decide +kernel) same) (by decide)

end EntityGen.Identifier
