import EntityGen.Proofs.Identifier.Characters
import Mathlib.Data.List.Basic

/-!
Canonical names: lowercase words of ASCII letters and digits with single underscores between them. Their words
are the ones they are written with (`words_intercalate`), so casing can be taken back: a Go identifier gives
its name again (`snake_go`), and no two names have the same identifier (`go_injective`). A Kotlin property has
the name itself exactly if the name is a single word (`propertyName_eq_iff`). -/
namespace EntityGen.Text

/-- An ASCII lowercase letter or digit. -/
def isWordChar (c : Char) : Bool := c.isLower || c.isDigit

/-- A lowercase letter, followed by lowercase letters and digits. -/
def isWord : List Char → Bool
  | [] => false
  | c :: rest => c.isLower && rest.all isWordChar

/-- One or more words with single underscores between them. -/
def Canonical (name : String) : Prop :=
  ∃ ws : List (List Char), ws ≠ [] ∧ (∀ w ∈ ws, isWord w = true) ∧ name.toList = List.intercalate ['_'] ws

/-! ### Characters of words -/

theorem toNat_lt_of_isAlphanum {c : Char} (h : c.isAlphanum = true) : c.toNat < 128 := by
  have spelled : c.isAlphanum = (decide (c.val ≥ 'A'.val ∧ c.val ≤ 'Z'.val) ||
    c.val ≥ 'a'.val && c.val ≤ 'z'.val || c.val ≥ '0'.val && c.val ≤ '9'.val) := rfl
  simp only [spelled, Bool.or_eq_true, Bool.and_eq_true, decide_eq_true_eq, UInt32.le_iff_toNat_le,
    ge_iff_le] at h
  have capitals : 'Z'.val.toNat = 90 := rfl
  have letters : 'z'.val.toNat = 122 := rfl
  have digits : '9'.val.toNat = 57 := rfl
  show c.val.toNat < 128
  omega

/-- What the casing of ASCII does to the characters of words. -/
theorem casing_of_wordChars : ∀ n < 128, isWordChar (Char.ofNat n) = true →
    (Char.ofNat n).isUpper = false ∧ (Char.ofNat n).toLower = Char.ofNat n ∧
      ((Char.ofNat n).isLower = true →
        (Char.ofNat n).toUpper.isUpper = true ∧ (Char.ofNat n).toUpper.toLower = Char.ofNat n) := by
  decide +kernel

section WordChar
variable {c : Char} (h : isWordChar c = true)
include h

theorem isAlphanum_of_isWordChar : c.isAlphanum = true := by
  show (c.isUpper || c.isLower || c.isDigit) = true
  simpa [isWordChar, or_assoc] using Or.inr h

theorem casing_of_isWordChar : c.isUpper = false ∧ c.toLower = c ∧
    (c.isLower = true → c.toUpper.isUpper = true ∧ c.toUpper.toLower = c) := by
  have casing := casing_of_wordChars c.toNat (toNat_lt_of_isAlphanum (isAlphanum_of_isWordChar h))
  rw [Char.ofNat_toNat] at casing
  exact casing h

theorem isAscii_of_isWordChar : isAscii c = true := by
  simpa [isAscii] using toNat_lt_of_isAlphanum (isAlphanum_of_isWordChar h)

theorem isAlphanumeric_of_isWordChar : isAlphanumeric c = true := by
  rw [isAlphanumeric_of_isAscii (isAscii_of_isWordChar h)]
  exact isAlphanum_of_isWordChar h

theorem isUpper_of_isWordChar : isUpper c = false := by
  rw [isUpper_of_isAscii (isAscii_of_isWordChar h)]
  exact (casing_of_isWordChar h).1

end WordChar

/-- A word is a letter and characters of words. -/
theorem exists_of_isWord {w : List Char} (h : isWord w = true) :
    ∃ c rest, w = c :: rest ∧ c.isLower = true ∧ ∀ d ∈ c :: rest, isWordChar d = true := by
  cases w with
  | nil => exact nomatch h
  | cons c rest =>
    simp only [isWord, Bool.and_eq_true, List.all_eq_true] at h
    have first : isWordChar c = true := by simp [isWordChar, h.1]
    exact ⟨c, rest, rfl, h.1, List.forall_mem_cons.mpr ⟨first, h.2⟩⟩

theorem isWordChar_of_mem {w : List Char} (h : isWord w = true) : ∀ c ∈ w, isWordChar c = true := by
  obtain ⟨c, rest, rfl, -, chars⟩ := exists_of_isWord h
  exact chars

/-! ### Cutting canonical names -/

theorem runsOf_of_alphanumeric {l : List Char} (h : ∀ c ∈ l, isAlphanumeric c = true) (run : List Char) :
    runsOf run l = [run.reverse ++ l] := by
  induction l generalizing run with
  | nil => simp [runsOf]
  | cons c l ih =>
    rw [runsOf, if_pos (h c (List.mem_cons_self ..)), ih fun d hd => h d (List.mem_cons_of_mem _ hd)]
    simp

theorem runsOf_append {l : List Char} (h : ∀ c ∈ l, isAlphanumeric c = true) (run rest : List Char) :
    runsOf run (l ++ '_' :: rest) = (run.reverse ++ l) :: runsOf [] rest := by
  induction l generalizing run with
  | nil =>
    have separator : isAlphanumeric '_' = false := by decide
    simp [runsOf, separator]
  | cons c l ih =>
    rw [List.cons_append, runsOf, if_pos (h c (List.mem_cons_self ..)),
      ih fun d hd => h d (List.mem_cons_of_mem _ hd)]
    simp

/-- Underscores cut a text into what stands between them. -/
theorem runsOf_intercalate {ws : List (List Char)} (some_word : ws ≠ [])
    (h : ∀ w ∈ ws, ∀ c ∈ w, isAlphanumeric c = true) : runsOf [] (List.intercalate ['_'] ws) = ws := by
  induction ws with
  | nil => exact absurd rfl some_word
  | cons w ws ih =>
    have first := h w (List.mem_cons_self ..)
    cases ws with
    | nil => rw [List.intercalate_singleton, runsOf_of_alphanumeric first, List.reverse_nil, List.nil_append]
    | cons next ws =>
      rw [List.intercalate_cons_cons, List.append_assoc, List.singleton_append, runsOf_append first,
        ih (List.cons_ne_nil _ _) fun v hv => h v (List.mem_cons_of_mem _ hv), List.reverse_nil,
        List.nil_append]

/-- A run without uppercase letters is one word. -/
theorem humps_of_not_isUpper {c : Char} {rest : List Char} (h : ∀ d ∈ c :: rest, isUpper d = false)
    (hump : Hump) (word : List Char) : humps hump word (c :: rest) = [word.reverse ++ c :: rest] := by
  induction rest generalizing c hump word with
  | nil => simp [humps]
  | cons next rest ih =>
    have hc : isUpper c = false := h c (List.mem_cons_self ..)
    have later : ∀ d ∈ next :: rest, isUpper d = false := fun d hd => h d (List.mem_cons_of_mem _ hd)
    have hnext : isUpper next = false := later next (List.mem_cons_self ..)
    rw [humps, if_neg (by simp [hnext]), if_neg (by simp [hc]), ih later]
    simp

/-- The words of a canonical name are the ones that it is written with. -/
theorem words_intercalate {ws : List (List Char)} (some_word : ws ≠ []) (h : ∀ w ∈ ws, isWord w = true) :
    words (List.intercalate ['_'] ws) = ws := by
  have alphanumeric : ∀ w ∈ ws, ∀ c ∈ w, isAlphanumeric c = true := fun w hw c hc =>
    isAlphanumeric_of_isWordChar (isWordChar_of_mem (h w hw) c hc)
  have whole : ∀ w ∈ ws, humps .start [] w = [w] := by
    intro w hw
    obtain ⟨c, rest, rfl, -, chars⟩ := exists_of_isWord (h w hw)
    have lowercase : ∀ d ∈ c :: rest, isUpper d = false := fun d hd => isUpper_of_isWordChar (chars d hd)
    rw [humps_of_not_isUpper lowercase, List.reverse_nil, List.nil_append]
  rw [words, runsOf_intercalate some_word alphanumeric, List.flatMap_congr whole, List.flatMap_singleton']

/-- A name is canonical exactly if its words are, and are all of it. -/
theorem canonical_iff {name : String} :
    Canonical name ↔ words name.toList ≠ [] ∧ (∀ w ∈ words name.toList, isWord w = true) ∧
      name.toList = List.intercalate ['_'] (words name.toList) := by
  constructor
  · intro h
    obtain ⟨ws, some_word, hw, spelled⟩ := h
    rw [spelled, words_intercalate some_word hw]
    exact ⟨some_word, hw, rfl⟩
  · intro h
    exact ⟨_, h⟩

instance (name : String) : Decidable (Canonical name) := decidable_of_iff _ canonical_iff.symm

/-! ### Casing words -/

theorem lowercase_of_isWord {w : List Char} (h : ∀ c ∈ w, isWordChar c = true) : lowercase w = w := by
  have ascii : ∀ c ∈ w, isAscii c = true := fun c hc => isAscii_of_isWordChar (h c hc)
  have same : ∀ c ∈ w, c.toLower = c := fun c hc => (casing_of_isWordChar (h c hc)).2.1
  rw [lowercase_of_isAscii ascii, List.map_congr_left same, List.map_id']

theorem capitalize_of_wordChars {c : Char} {rest : List Char} (h : ∀ d ∈ c :: rest, isWordChar d = true) :
    capitalize (c :: rest) = c.toUpper :: rest := by
  have hc : isAscii c = true := isAscii_of_isWordChar (h c (List.mem_cons_self ..))
  rw [capitalize, upper_of_isAscii hc, lowercase_of_isWord fun d hd => h d (List.mem_cons_of_mem _ hd)]
  rfl

theorem isAlphanum_capitalize {w : List Char} (h : isWord w = true) :
    ∀ c ∈ capitalize w, c.isAlphanum = true := by
  obtain ⟨c, rest, rfl, letter, chars⟩ := exists_of_isWord h
  obtain ⟨-, -, capital⟩ := casing_of_isWordChar (chars c (List.mem_cons_self ..))
  rw [capitalize_of_wordChars chars, List.forall_mem_cons]
  refine ⟨?_, fun d hd => isAlphanum_of_isWordChar (chars d (List.mem_cons_of_mem _ hd))⟩
  show (c.toUpper.isUpper || c.toUpper.isLower || c.toUpper.isDigit) = true
  rw [(capital letter).1]
  rfl

/-- Every capital in lowercase, behind an underscore. -/
def snake (s : List Char) : List Char := s.flatMap fun c => if c.isUpper then ['_', c.toLower] else [c]

theorem snake_append (s t : List Char) : snake (s ++ t) = snake s ++ snake t := List.flatMap_append

theorem snake_of_wordChars {w : List Char} (h : ∀ c ∈ w, isWordChar c = true) : snake w = w := by
  have small : ∀ c ∈ w, (if c.isUpper then ['_', c.toLower] else [c]) = [c] := fun c hc => by
    rw [(casing_of_isWordChar (h c hc)).1]
    rfl
  rw [snake, List.flatMap_congr small, List.flatMap_singleton']

theorem snake_capitalize {w : List Char} (h : isWord w = true) : snake (capitalize w) = '_' :: w := by
  obtain ⟨c, rest, rfl, letter, chars⟩ := exists_of_isWord h
  obtain ⟨-, -, capital⟩ := casing_of_isWordChar (chars c (List.mem_cons_self ..))
  have small : snake rest = rest := snake_of_wordChars fun d hd => chars d (List.mem_cons_of_mem _ hd)
  rw [capitalize_of_wordChars chars, snake, List.flatMap_cons, if_pos (capital letter).1, (capital letter).2, ← snake,
    small]
  rfl

theorem snake_flatMap_capitalize {ws : List (List Char)} (h : ∀ w ∈ ws, isWord w = true) :
    snake (ws.flatMap capitalize) = ws.flatMap ('_' :: ·) := by
  rw [snake, List.flatMap_assoc]
  exact List.flatMap_congr fun w hw => snake_capitalize (h w hw)

/-- Every word behind an underscore is the words with underscores between them, behind one. -/
theorem flatMap_underscore {ws : List (List Char)} (some_word : ws ≠ []) :
    ws.flatMap ('_' :: ·) = '_' :: List.intercalate ['_'] ws := by
  induction ws with
  | nil => exact absurd rfl some_word
  | cons w ws ih =>
    cases ws with
    | nil => simp
    | cons next ws =>
      rw [List.flatMap_cons, ih (List.cons_ne_nil _ _), List.intercalate_cons_cons]
      simp

end EntityGen.Text

namespace EntityGen.Identifier
open Text

/-! ### Go -/

/-- The Go identifier of a canonical name is its words with capitals. -/
theorem toList_go {name : String} {ws : List (List Char)} (some_word : ws ≠ [])
    (hw : ∀ w ∈ ws, isWord w = true) (spelled : name.toList = List.intercalate ['_'] ws) :
    (go name).toList = ws.flatMap capitalize := by
  rw [go, String.toList_ofList, spelled, words_intercalate some_word hw]

theorem isAlphanum_go {name : String} (h : Canonical name) :
    ∀ c ∈ (go name).toList, c.isAlphanum = true := by
  obtain ⟨ws, some_word, hw, spelled⟩ := h
  rw [toList_go some_word hw spelled]
  intro c hc
  obtain ⟨w, hm, hc⟩ := List.mem_flatMap.mp hc
  exact isAlphanum_capitalize (hw w hm) c hc

/-- It gives the name again. -/
theorem snake_go {name : String} (h : Canonical name) : snake (go name).toList = '_' :: name.toList := by
  obtain ⟨ws, some_word, hw, spelled⟩ := h
  rw [toList_go some_word hw spelled, snake_flatMap_capitalize hw, flatMap_underscore some_word, spelled]

theorem go_ne_empty {name : String} (h : Canonical name) : go name ≠ "" := by
  intro empty
  have spelled := snake_go h
  rw [empty] at spelled
  exact nomatch spelled

/-- Canonical names with the same Go identifier are the same. -/
theorem go_injective {name other : String} (h : Canonical name) (ho : Canonical other)
    (same : go name = go other) : name = other := by
  have spelled : '_' :: name.toList = '_' :: other.toList := by
    rw [← snake_go h, ← snake_go ho, same]
  exact String.toList_inj.mp (List.cons.inj spelled).2

/-! ### Kotlin -/

theorem underscore_not_mem_propertyName (name : String) : '_' ∉ (propertyName name).toList := by
  intro h
  exact absurd (wordlike_propertyName name _ h) (by decide)

/-- Of the canonical names, exactly the single words are property names as they stand. -/
theorem propertyName_eq_iff {name : String} (h : Canonical name) :
    propertyName name = name ↔ '_' ∉ name.toList := by
  constructor
  · intro same
    rw [← same]
    exact underscore_not_mem_propertyName name
  · intro single
    obtain ⟨ws, some_word, hw, spelled⟩ := h
    cases ws with
    | nil => exact absurd rfl some_word
    | cons w ws =>
      cases ws with
      | nil =>
        have one : words name.toList = [w] := by
          rw [spelled]
          exact words_intercalate some_word hw
        rw [List.intercalate_singleton] at spelled
        rw [propertyName, one, camel, List.flatMap_nil, List.append_nil,
          lowercase_of_isWord (isWordChar_of_mem (hw w (List.mem_cons_self ..))), ← spelled,
          String.ofList_toList]
      | cons next ws =>
        rw [spelled, List.intercalate_cons_cons] at single
        exact absurd (by simp) single

end EntityGen.Identifier
