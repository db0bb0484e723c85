import EntityGen.Identifier

/-!
The characters of identifiers. A name may hold anything, its words only letters and digits, and the tables
of letter case lead from those to those again. So whatever the name is, ASCII gives an identifier only its
letters and digits (`wordlike_go`, `wordlike_propertyName`), apart from the backticks around a Kotlin
keyword. -/
namespace EntityGen.Text

/-- A letter or a digit, or a character beyond ASCII. -/
def wordlike (c : Char) : Bool := !isAscii c || c.isAlphanum

theorem wordlike_of_isAlphanumeric {c : Char} (h : isAlphanumeric c = true) : wordlike c = true := by
  cases hc : isAscii c with
  | false => simp [wordlike, hc]
  | true => simpa [wordlike, hc, isAlphanumeric_of_isAscii hc] using h

/-! ### Letter case

A shift moves a whole run, so it is enough to look at the ends of where the run lands. Only runs of one code
point reach down to ASCII. -/

/-- Where the run lands are characters, and all of them are wordlike. -/
def Shift.lands (s : Shift) : Bool :=
  let first := (s.run.first + s.distance).toNat
  let last := (s.run.last + s.distance).toNat
  128 ≤ first && (last < 0xD800 || 0xE000 ≤ first && last < 0x110000) ||
    s.run.first == s.run.last && wordlike (Char.ofNat first)

/-- Every shift of the table lands. -/
def Shift.sound (table : List Shift) : Bool := table.all Shift.lands

/-- What the table expands to is wordlike. -/
def expansionsSound (table : List (Nat × List Nat)) : Bool :=
  table.all fun entry => entry.2.all fun n => wordlike (Char.ofNat n)

theorem sound_upper : expansionsSound upperExpansions = true ∧ Shift.sound upperShifts = true := by
  decide +kernel

theorem sound_lower : expansionsSound lowerExpansions = true ∧ Shift.sound lowerShifts = true := by
  decide +kernel

theorem toNat_ofNat {n : Nat} (h : n < 0xD800 ∨ 0xE000 ≤ n ∧ n < 0x110000) : (Char.ofNat n).toNat = n := by
  have valid : n.isValidChar := by
    unfold Nat.isValidChar
    omega
  rw [Char.ofNat, dif_pos valid]
  rfl

theorem wordlike_of_lands {s : Shift} (h : s.lands = true) {n : Nat} (hn : s.run.holds n = true) :
    wordlike (Char.ofNat (n + s.distance).toNat) = true := by
  simp only [Run.holds, Bool.and_eq_true, decide_eq_true_eq] at hn
  obtain ⟨⟨hfirst, hlast⟩, -⟩ := hn
  simp only [Shift.lands, Bool.or_eq_true, Bool.and_eq_true, decide_eq_true_eq, beq_iff_eq] at h
  rcases h with ⟨beyond, char⟩ | ⟨one, letter⟩
  · have value : (Char.ofNat (n + s.distance).toNat).toNat = (n + s.distance).toNat :=
      toNat_ofNat (by omega)
    have notAscii : isAscii (Char.ofNat (n + s.distance).toNat) = false := by
      rw [isAscii, value, decide_eq_false_iff_not]
      omega
    simp [wordlike, notAscii]
  · have hn : n = s.run.first := by omega
    rw [hn]
    exact letter

theorem wordlike_recase {expansions : List (Nat × List Nat)} {shifts : List Shift}
    (sound : expansionsSound expansions = true ∧ Shift.sound shifts = true) {c : Char}
    (hc : wordlike c = true) : ∀ d ∈ recase expansions shifts c.toNat, wordlike d = true := by
  intro d hd
  unfold recase at hd
  split at hd
  · next ns found =>
    obtain ⟨n, hn, rfl⟩ := List.mem_map.mp hd
    obtain ⟨before, after, table, -⟩ := List.lookup_eq_some_iff.mp found
    have listed : (c.toNat, ns) ∈ expansions := table ▸ List.mem_append_right _ (List.mem_cons_self ..)
    exact List.all_eq_true.mp (List.all_eq_true.mp sound.1 _ listed) n hn
  · rw [List.mem_singleton] at hd
    subst hd
    unfold Shift.apply
    split
    · next s found =>
      have lands := List.all_eq_true.mp sound.2 s (List.mem_of_find?_eq_some found)
      have holds : s.run.holds c.toNat = true := by simpa using List.find?_some found
      exact wordlike_of_lands lands holds
    · rwa [Char.ofNat_toNat]

/-- ASCII letters and digits keep being so in the other case. -/
theorem isAlphanum_recased : ∀ n < 128, (Char.ofNat n).isAlphanum = true →
    (Char.ofNat n).toUpper.isAlphanum = true ∧ (Char.ofNat n).toLower.isAlphanum = true := by
  decide +kernel

theorem isAlphanum_of_isAscii {c : Char} (hc : isAscii c = true) (h : wordlike c = true) :
    c.toUpper.isAlphanum = true ∧ c.toLower.isAlphanum = true := by
  have small : c.toNat < 128 := by simpa [isAscii] using hc
  have recased := isAlphanum_recased c.toNat small
  rw [Char.ofNat_toNat] at recased
  exact recased (by simpa [wordlike, hc] using h)

theorem wordlike_upper {c : Char} (h : wordlike c = true) : ∀ d ∈ upper c, wordlike d = true := by
  intro d hd
  cases hc : isAscii c with
  | false =>
    rw [upper, if_neg (by simp [hc])] at hd
    exact wordlike_recase sound_upper h d hd
  | true =>
    rw [upper_of_isAscii hc, List.mem_singleton] at hd
    subst hd
    simp [wordlike, (isAlphanum_of_isAscii hc h).1]

theorem wordlike_lower {c : Char} (h : wordlike c = true) : ∀ d ∈ lower c, wordlike d = true := by
  intro d hd
  cases hc : isAscii c with
  | false =>
    rw [lower, if_neg (by simp [hc])] at hd
    exact wordlike_recase sound_lower h d hd
  | true =>
    rw [lower_of_isAscii hc, List.mem_singleton] at hd
    subst hd
    simp [wordlike, (isAlphanum_of_isAscii hc h).2]

/-! ### Words -/

theorem wordlike_lowercase {word : List Char} (h : ∀ c ∈ word, wordlike c = true) :
    ∀ d ∈ lowercase word, wordlike d = true := by
  induction word with
  | nil => nofun
  | cons c rest ih =>
    have hc : wordlike c = true := h c (List.mem_cons_self ..)
    have hr : ∀ c ∈ rest, wordlike c = true := fun c hc => h c (List.mem_cons_of_mem _ hc)
    intro d hd
    cases rest with
    | nil =>
      rw [lowercase] at hd
      split at hd
      · rw [List.mem_singleton] at hd
        exact hd ▸ by decide
      · exact wordlike_lower hc d hd
    | cons next rest =>
      rw [lowercase, List.mem_append] at hd
      rcases hd with hd | hd
      · exact wordlike_lower hc d hd
      · exact ih hr d hd

theorem wordlike_capitalize {word : List Char} (h : ∀ c ∈ word, wordlike c = true) :
    ∀ d ∈ capitalize word, wordlike d = true := by
  intro d hd
  cases word with
  | nil => exact nomatch hd
  | cons c rest =>
    rw [capitalize, List.mem_append] at hd
    rcases hd with hd | hd
    · exact wordlike_upper (h c (List.mem_cons_self ..)) d hd
    · exact wordlike_lowercase (fun c hc => h c (List.mem_cons_of_mem _ hc)) d hd

theorem wordlike_words {name word : List Char} (h : word ∈ words name) : ∀ c ∈ word, wordlike c = true := by
  intro c hc
  have kept : c ∈ name.filter isAlphanumeric := by
    rw [← flatten_words]
    exact List.mem_flatten.mpr ⟨word, h, hc⟩
  exact wordlike_of_isAlphanumeric (List.mem_filter.mp kept).2

end EntityGen.Text

/-! ### Identifiers -/

namespace EntityGen.Identifier
open Text

theorem wordlike_flatMap_capitalize {ws : List (List Char)}
    (h : ∀ word ∈ ws, ∀ c ∈ word, wordlike c = true) :
    ∀ d ∈ ws.flatMap capitalize, wordlike d = true := by
  intro d hd
  obtain ⟨word, hw, hd⟩ := List.mem_flatMap.mp hd
  exact wordlike_capitalize (h word hw) d hd

/-- A Go identifier is letters and digits, as far as ASCII goes. -/
theorem wordlike_go (name : String) : ∀ c ∈ (go name).toList, wordlike c = true := by
  rw [go, String.toList_ofList]
  exact wordlike_flatMap_capitalize fun _ => wordlike_words

theorem wordlike_camel {ws : List (List Char)} (h : ∀ word ∈ ws, ∀ c ∈ word, wordlike c = true) :
    ∀ d ∈ camel ws, wordlike d = true := by
  intro d hd
  cases ws with
  | nil => exact nomatch hd
  | cons first rest =>
    rw [camel, List.mem_append] at hd
    rcases hd with hd | hd
    · exact wordlike_lowercase (h first (List.mem_cons_self ..)) d hd
    · exact wordlike_flatMap_capitalize (fun word hw => h word (List.mem_cons_of_mem _ hw)) d hd

/-- What a Kotlin property is called; it is declared by this name, between backticks if it is a keyword. -/
def propertyName (name : String) : String := String.ofList (camel (words name.toList))

theorem kotlin_eq (name : String) : kotlin name = quoteKeyword (propertyName name) := rfl

/-- So is what a Kotlin property is called. -/
theorem wordlike_propertyName (name : String) : ∀ c ∈ (propertyName name).toList, wordlike c = true := by
  rw [propertyName, String.toList_ofList]
  exact wordlike_camel fun _ => wordlike_words

end EntityGen.Identifier
