import EntityGen.Json.Printer
import EntityGen.Yaml.Scalar

/-!
Scalars that JSON and YAML write alike. In flow collections a word of letters and digits before a mark is a plain scalar
(`plain_word`). A text in ASCII that is spelled in JSON, quotes and backslashes escaped, is a quoted scalar of the same
text (`quoted_quotation`): blanks in it are gaps on one line, and such a gap is kept as it is. -/
namespace EntityGen

/-- Printed characters of ASCII, from the blank to the tilde. -/
def Text.isBasic (c : Char) : Bool := decide (' ' ≤ c) && decide (c ≤ '~')

/-- A text of such characters. -/
def Text.IsBasic (s : String) : Prop := ∀ c ∈ s.toList, isBasic c = true

/-- The characters of the text are looked at, and not all characters there are. -/
instance : DecidablePred Text.IsBasic := fun _ => decidable_of_iff _ List.all_eq_true

namespace Yaml
open Text (isBasic IsBasic)

/-! ### Places -/

namespace Cursor
variable {k : Cursor} {cs ds : List Char}

@[simp] theorem advance_zero (k : Cursor) : k.advance 0 = k := rfl

@[simp] theorem advance_advance (k : Cursor) (m n : Nat) : (k.advance m).advance n = k.advance (m + n) := by
  simp [advance, Nat.add_assoc]

@[simp] theorem column_advance (k : Cursor) (n : Nat) : (k.advance n).column = k.column + n := rfl

theorem rest_advance (h : k.rest = cs ++ ds) : (k.advance cs.length).rest = ds := by
  simp [advance, h]

theorem rest_advance_one {c : Char} (h : k.rest = c :: cs) : (k.advance 1).rest = cs := by
  simp [advance, h]

theorem rest_advance_two {c d : Char} (h : k.rest = c :: d :: cs) : (k.advance 2).rest = cs := by
  simp [advance, h]

theorem readBreak?_of_solid {c : Char} (h : k.rest = c :: cs) (solid : isGap c = false) : k.readBreak? = none := by
  have unbroken : isBreak c = false := by
    simp only [isGap, Bool.or_eq_false_iff] at solid
    exact solid.2
  have noReturn : c ≠ '\r' := by
    rintro rfl
    exact absurd unbroken (by decide)
  unfold readBreak?
  rw [h]
  split
  · next same => exact absurd (List.cons.inj same).1 noReturn
  · next same =>
    obtain ⟨rfl, -⟩ := List.cons.inj same
    rw [unbroken]
    rfl
  · next same => exact nomatch same

end Cursor

/-! ### Gaps -/

theorem Gap.read?_of_spaces {indent : Int} {g : Gap} {fuel : Nat} {k : Cursor} {spaces rest : List Char} {c : Char}
    (blanks : ∀ b ∈ spaces, b = ' ') (solid : isGap c = false) (within : g.crossesLine = false)
    (enough : spaces.length < fuel) (h : k.rest = spaces ++ c :: rest) :
    g.read? indent fuel k = some ({ g with spaces := g.spaces ++ spaces }, k.advance spaces.length) := by
  induction spaces generalizing g fuel k with
  | nil =>
    obtain ⟨fuel, rfl⟩ := Nat.exists_eq_add_one.mpr enough
    have noSpace : isSpace c = false := by
      simp only [isGap, Bool.or_eq_false_iff] at solid
      exact solid.1
    simp [read?, h, noSpace, Cursor.readBreak?_of_solid h solid]
  | cons b spaces ih =>
    obtain ⟨rfl, others⟩ := List.forall_mem_cons.mp blanks
    obtain ⟨fuel, rfl⟩ := Nat.exists_eq_add_one.mpr (Nat.zero_lt_of_lt enough)
    have more := @ih { g with spaces := g.spaces ++ [' '] } fuel (k.advance 1) others within
      (Nat.lt_of_succ_lt_succ enough) (Cursor.rest_advance_one h)
    simp only [read?, h, List.cons_append, within]
    rw [if_pos (by decide), if_neg Bool.false_ne_true, more, Cursor.advance_advance, List.length_cons, Nat.add_comm]
    simp

/-! ### Words -/

/-- The characters that are letters or digits are none of those that mean something in YAML. -/
theorem ne_of_isAlphanum {c d : Char} (h : c.isAlphanum = true) (other : d.isAlphanum = false) : c ≠ d := by
  rintro rfl
  exact Bool.false_ne_true (other.symm.trans h)

theorem isBasic_of_isAlphanum {c : Char} (h : c.isAlphanum = true) : isBasic c = true := by
  have among (low high : Char) (above : low ≤ c) (below : c ≤ high) (hl : ' ' ≤ low) (hh : high ≤ '~') :
      isBasic c = true :=
    Bool.and_eq_true_iff.mpr ⟨decide_eq_true (Char.le_trans hl above), decide_eq_true (Char.le_trans below hh)⟩
  rcases Bool.or_eq_true_iff.mp h with letter | digit
  · rcases Bool.or_eq_true_iff.mp letter with upper | lower
    · obtain ⟨above, below⟩ := of_decide_eq_true upper
      exact among 'A' 'Z' above below (by decide) (by decide)
    · obtain ⟨above, below⟩ := Bool.and_eq_true_iff.mp lower
      exact among 'a' 'z' (of_decide_eq_true above) (of_decide_eq_true below) (by decide) (by decide)
  · obtain ⟨above, below⟩ := Bool.and_eq_true_iff.mp digit
    exact among '0' '9' (of_decide_eq_true above) (of_decide_eq_true below) (by decide) (by decide)

theorem isGap_of_isAlphanum {c : Char} (h : c.isAlphanum = true) : isGap c = false := by
  simp (disch := decide) [isGap, isSpace, isBreak, ne_of_isAlphanum h]

theorem isFlowMark_of_isAlphanum {c : Char} (h : c.isAlphanum = true) : isFlowMark c = false := by
  simp (disch := decide) [isFlowMark, ne_of_isAlphanum h]

theorem isGap_of_isFlowMark {c : Char} (h : isFlowMark c = true) : isGap c = false := by
  simp only [isFlowMark, Bool.or_eq_true, beq_iff_eq] at h
  rcases h with (((rfl | rfl) | rfl) | rfl) | rfl <;> decide

theorem isBasic_of_isFlowMark {c : Char} (h : isFlowMark c = true) : isBasic c = true := by
  simp only [isFlowMark, Bool.or_eq_true, beq_iff_eq] at h
  rcases h with (((rfl | rfl) | rfl) | rfl) | rfl <;> decide

theorem plainRun_word {word rest : List Char} {m : Char} (alphanumeric : ∀ c ∈ word, c.isAlphanum = true)
    (mark : isFlowMark m = true) : plainRun true (word ++ m :: rest) = some word := by
  induction word with
  | nil =>
    have noColon : m ≠ ':' := by
      rintro rfl
      exact absurd mark (by decide)
    simp [plainRun, isGap_of_isFlowMark mark, mark, noColon]
  | cons c word ih =>
    obtain ⟨first, others⟩ := List.forall_mem_cons.mp alphanumeric
    have noColon : (c == ':') = false := beq_false_of_ne (ne_of_isAlphanum first (by decide))
    simp [plainRun, isGap_of_isAlphanum first, isFlowMark_of_isAlphanum first, noColon, ih others]

/-- In a flow collection a word before a mark is a plain scalar, and no line ends after it. -/
theorem plain_word {word rest : List Char} {m : Char} {indent : Int} {k : Cursor} (some : word ≠ [])
    (alphanumeric : ∀ c ∈ word, c.isAlphanum = true) (mark : isFlowMark m = true) (h : k.rest = word ++ m :: rest) :
    plain true indent k = .some (word, k.advance word.length, false) := by
  obtain ⟨c, others, rfl⟩ := List.exists_cons_of_ne_nil some
  have first := alphanumeric c (List.mem_cons_self ..)
  have unmarked : k.atDocumentMark = false := by
    simp (disch := decide) [Cursor.atDocumentMark, Cursor.atMarker, h, ne_of_isAlphanum first]
  have uncommented : (k.rest.head? == .some '#') = false := by
    simp (disch := decide) [h, ne_of_isAlphanum first]
  have run : plainRun true (c :: others ++ m :: rest) = .some (c :: others) := plainRun_word alphanumeric mark
  have gap : Gap.empty.read? indent ((k.advance (c :: others).length).rest.length + 1)
      (k.advance (c :: others).length) = .some (Gap.empty, k.advance (c :: others).length) :=
    @Gap.read?_of_spaces indent _ _ _ [] rest m nofun (isGap_of_isFlowMark mark) rfl (Nat.zero_lt_succ _)
      (Cursor.rest_advance h)
  rw [← h] at run
  rw [plain, plainFrom, unmarked, uncommented, run]
  simp only [Bool.or_self, Bool.false_eq_true, if_false, Option.bind_eq_bind, Option.bind_some, List.isEmpty_cons, gap]
  rfl

/-! ### Quoted texts -/

/-- A text between its quotes as JSON spells it. -/
def spelled (cs : List Char) : List Char := cs.flatMap fun c => Json.writeCodePoint c.toNat

@[simp] theorem spelled_nil : spelled [] = [] := rfl

/-- A text as JSON writes it. -/
def quotation (s : String) : List Char := Json.writeLiteral (Json.Literal.ofString s)

theorem quotation_eq (s : String) : quotation s = '"' :: (spelled s.toList ++ ['"']) := by
  rw [quotation, Json.writeLiteral, Json.Literal.ofString, Json.Literal.ofChars, List.flatMap_map]
  rfl

/-- Quotes and backslashes are spelled behind a backslash, other printed characters as they are. -/
theorem writeCodePoint_of_isBasic {c : Char} (h : isBasic c = true) :
    (c = '"' ∨ c = '\\') ∧ Json.writeCodePoint c.toNat = ['\\', c] ∨
      (c ≠ '"' ∧ c ≠ '\\') ∧ Json.writeCodePoint c.toNat = [c] := by
  have all : ∀ n < 0x7F, 0x20 ≤ n → (Char.ofNat n = '"' ∨ Char.ofNat n = '\\') ∧
      Json.writeCodePoint n = ['\\', Char.ofNat n] ∨
      (Char.ofNat n ≠ '"' ∧ Char.ofNat n ≠ '\\') ∧ Json.writeCodePoint n = [Char.ofNat n] := by
    decide
  have bounds : 0x20 ≤ c.toNat ∧ c.toNat ≤ 0x7E := by
    simpa [isBasic, Char.le_def, UInt32.le_iff_toNat_le] using h
  have this := all c.toNat (by omega) bounds.1
  rwa [Char.ofNat_toNat] at this

/-- A character is spelled behind a backslash or as it is. -/
theorem spelled_cons {c : Char} (h : isBasic c = true) (cs : List Char) :
    (c = '"' ∨ c = '\\') ∧ spelled (c :: cs) = '\\' :: c :: spelled cs ∨
      (c ≠ '"' ∧ c ≠ '\\') ∧ spelled (c :: cs) = c :: spelled cs := by
  simp only [spelled, List.flatMap_cons]
  rcases writeCodePoint_of_isBasic h with ⟨mark, written⟩ | ⟨plain, written⟩
  · exact .inl ⟨mark, by rw [written]; rfl⟩
  · exact .inr ⟨plain, by rw [written]; rfl⟩

theorem isPrintable_of_isBasic {c : Char} (h : isBasic c = true) : isPrintable c = true := by
  have bounds : 0x20 ≤ c.toNat ∧ c.toNat ≤ 0x7E := by
    simpa [isBasic, Char.le_def, UInt32.le_iff_toNat_le] using h
  simp [isPrintable, bounds]

/-- Only the blank is a gap among the printed characters. -/
theorem isGap_of_isBasic {c : Char} (h : isBasic c = true) (solid : c ≠ ' ') : isGap c = false := by
  have apart : ∀ d, isBasic d = false → c ≠ d := by
    rintro _ other rfl
    exact Bool.false_ne_true (other.symm.trans h)
  simp (disch := decide) [isGap, isSpace, isBreak, solid, apart]

theorem escaped?_of_mark {c : Char} (h : c = '"' ∨ c = '\\') (rest : List Char) :
    escaped? (c :: rest) = some (c, 1) := by
  rcases h with rfl | rfl <;> rfl

/-- Up to the next blank or the closing quote. -/
theorem quotedRun_spelled {word rest : List Char} {d : Char} {fuel : Nat} {k : Cursor}
    (basic : ∀ c ∈ word, isBasic c = true) (solid : ∀ c ∈ word, c ≠ ' ') (ends : d = ' ' ∨ d = '"')
    (enough : word.length < fuel) (h : k.rest = spelled word ++ d :: rest) :
    quotedRun '"' fuel k = some (word, k.advance (spelled word).length, false) := by
  induction word generalizing fuel k with
  | nil =>
    obtain ⟨fuel, rfl⟩ := Nat.exists_eq_add_one.mpr enough
    rw [quotedRun, h]
    rcases ends with rfl | rfl <;> rfl
  | cons c word ih =>
    obtain ⟨fuel, rfl⟩ := Nat.exists_eq_add_one.mpr (Nat.zero_lt_of_lt enough)
    obtain ⟨first, others⟩ := List.forall_mem_cons.mp basic
    obtain ⟨noBlank, solid⟩ := List.forall_mem_cons.mp solid
    have unbroken : isBreak c = false := (Bool.or_eq_false_iff.mp (isGap_of_isBasic first noBlank)).2
    rcases spelled_cons first word with ⟨mark, split⟩ | ⟨⟨noQuote, noBackslash⟩, split⟩
    · rw [split] at h ⊢
      have next := ih others solid (Nat.lt_of_succ_lt_succ enough) (Cursor.rest_advance_two h)
      have start : isGap '\\' = false := by decide
      have length : (spelled word).length + 2 = 2 + (spelled word).length := Nat.add_comm ..
      simp [quotedRun, h, start, beforeBreak, escaped?_of_mark mark, unbroken, next, length]
    · rw [split] at h ⊢
      have next := ih others solid (Nat.lt_of_succ_lt_succ enough) (Cursor.rest_advance_one h)
      simp [quotedRun, h, isGap_of_isBasic first noBlank, noQuote, noBackslash, next, Nat.add_comm]

theorem isBasic_of_mem_spelled {cs : List Char} (basic : ∀ c ∈ cs, isBasic c = true) :
    ∀ d ∈ spelled cs, isBasic d = true := by
  induction cs with
  | nil => exact nofun
  | cons c cs ih =>
    obtain ⟨first, others⟩ := List.forall_mem_cons.mp basic
    rcases spelled_cons first cs with ⟨-, split⟩ | ⟨-, split⟩
    · rw [split]
      exact List.forall_mem_cons.mpr ⟨by decide, List.forall_mem_cons.mpr ⟨first, ih others⟩⟩
    · rw [split]
      exact List.forall_mem_cons.mpr ⟨first, ih others⟩

theorem isBasic_of_mem_quotation {s : String} (basic : IsBasic s) :
    ∀ d ∈ quotation s, isBasic d = true := by
  have quote : isBasic '"' = true := by decide
  rw [quotation_eq]
  refine List.forall_mem_cons.mpr ⟨quote, List.forall_mem_append.mpr ⟨?_, List.forall_mem_singleton.mpr quote⟩⟩
  exact isBasic_of_mem_spelled basic

theorem spelled_append (cs ds : List Char) : spelled (cs ++ ds) = spelled cs ++ spelled ds := List.flatMap_append

theorem spelled_blanks {spaces : List Char} (blanks : ∀ b ∈ spaces, b = ' ') : spelled spaces = spaces := by
  induction spaces with
  | nil => rfl
  | cons b spaces ih =>
    obtain ⟨rfl, others⟩ := List.forall_mem_cons.mp blanks
    exact congrArg (' ' :: ·) (ih others)

theorem length_le_spelled {cs : List Char} (basic : ∀ c ∈ cs, isBasic c = true) : cs.length ≤ (spelled cs).length := by
  induction cs with
  | nil => exact Nat.zero_le _
  | cons c cs ih =>
    obtain ⟨first, others⟩ := List.forall_mem_cons.mp basic
    have shorter := ih others
    rcases spelled_cons first cs with ⟨-, split⟩ | ⟨-, split⟩
    · simp only [split, List.length_cons]
      omega
    · simp only [split, List.length_cons]
      omega

/-- What is spelled for a text that does not start with a blank, and the quote after it, start with no gap. -/
theorem exists_cons_spelled {cs rest : List Char} (basic : ∀ c ∈ cs, isBasic c = true) (solid : cs.head? ≠ some ' ') :
    ∃ d ds, spelled cs ++ '"' :: rest = d :: ds ∧ isGap d = false := by
  cases cs with
  | nil => exact ⟨'"', rest, rfl, by decide⟩
  | cons c cs =>
    have first := basic c (List.mem_cons_self ..)
    have noBlank : c ≠ ' ' := fun same => solid (congrArg some same)
    rcases spelled_cons first cs with ⟨-, split⟩ | ⟨-, split⟩
    · exact ⟨'\\', c :: (spelled cs ++ '"' :: rest), by rw [split]; rfl, by decide⟩
    · exact ⟨c, spelled cs ++ '"' :: rest, by rw [split]; rfl, isGap_of_isBasic first noBlank⟩

/-- A text up to its first blanks, these blanks, and what is left. -/
theorem exists_word (cs : List Char) :
    ∃ word spaces more, cs = word ++ (spaces ++ more) ∧ (∀ c ∈ word, c ≠ ' ') ∧ (∀ b ∈ spaces, b = ' ') ∧
      more.head? ≠ some ' ' ∧ (spaces = [] → more = []) := by
  induction cs with
  | nil => exact ⟨[], [], [], rfl, nofun, nofun, nofun, fun _ => rfl⟩
  | cons c cs ih =>
    obtain ⟨word, spaces, more, rfl, solid, blanks, ends, last⟩ := ih
    by_cases blank : c = ' '
    · subst blank
      cases word with
      | nil =>
        exact ⟨[], ' ' :: spaces, more, rfl, nofun, List.forall_mem_cons.mpr ⟨rfl, blanks⟩, ends, nofun⟩
      | cons d word =>
        have first : d ≠ ' ' := solid d (List.mem_cons_self ..)
        refine ⟨[], [' '], (d :: word) ++ (spaces ++ more), rfl, nofun, List.forall_mem_singleton.mpr rfl, ?_, nofun⟩
        exact fun same => first (Option.some.inj same)
    · exact ⟨c :: word, spaces, more, rfl, List.forall_mem_cons.mpr ⟨blank, solid⟩, blanks, ends, last⟩

section
variable {word text rest : List Char} {fuel : Nat} {k : Cursor} (basic : ∀ c ∈ word, isBasic c = true)
  (solid : ∀ c ∈ word, c ≠ ' ') (inside : k.column ≠ 0)
include basic solid inside

/-- One step in a quoted text: a word, and the closing quote or the gap after it. -/
theorem quotedFrom_step {d : Char} (ends : d = ' ' ∨ d = '"') (h : k.rest = spelled word ++ d :: rest) :
    quotedFrom '"' text (fuel + 1) k =
      if d = '"' then some (text ++ word, k.advance ((spelled word).length + 1))
      else (Gap.empty.read? 0 ((d :: rest).length + 1) (k.advance (spelled word).length)).bind fun next =>
        quotedFrom '"' (text ++ word ++ next.1.folded) fuel next.2 := by
  have unmarked : k.atDocumentMark = false := by simp [Cursor.atDocumentMark, Cursor.atMarker, inside]
  have further : k.rest.isEmpty = false := by simp [h]
  have enough : word.length < k.rest.length + 1 := by
    have shorter := length_le_spelled basic
    rw [h, List.length_append]
    omega
  have run := quotedRun_spelled basic solid ends enough h
  have behind := Cursor.rest_advance h
  rw [quotedFrom, unmarked, further, run]
  simp only [Bool.or_self, Bool.false_eq_true, if_false, Option.bind_eq_bind, Option.bind_some, behind,
    List.head?_cons, Cursor.advance_advance, beq_iff_eq, Option.some.injEq]
  rfl

/-- The last word of a quoted text. -/
theorem quotedFrom_word (h : k.rest = spelled word ++ '"' :: rest) :
    quotedFrom '"' text (fuel + 1) k = some (text ++ word, k.advance ((spelled word).length + 1)) := by
  rw [quotedFrom_step basic solid inside (.inr rfl) h, if_pos rfl]

/-- A word of a quoted text and the blanks after it, which are kept. -/
theorem quotedFrom_blanks {spaces : List Char} {d : Char} (blanks : ∀ b ∈ spaces, b = ' ') (some : spaces ≠ [])
    (next : isGap d = false) (h : k.rest = spelled word ++ (spaces ++ d :: rest)) :
    quotedFrom '"' text (fuel + 1) k =
      quotedFrom '"' (text ++ word ++ spaces) fuel (k.advance ((spelled word).length + spaces.length)) := by
  obtain ⟨b, others, rfl⟩ := List.exists_cons_of_ne_nil some
  obtain rfl := blanks b (List.mem_cons_self ..)
  rw [List.cons_append] at h
  have within : (' ' :: others).length < (' ' :: (others ++ d :: rest)).length + 1 := by
    simp only [List.length_append, List.length_cons]
    omega
  have gap := @Gap.read?_of_spaces 0 Gap.empty _ _ _ rest d blanks next rfl within (Cursor.rest_advance h)
  rw [quotedFrom_step basic solid inside (.inl rfl) h, if_neg (by decide), gap, Cursor.advance_advance]
  rfl

end

/-- A quoted text from behind its opening quote. The induction is on its length: a word and the blanks after it are read
at once. -/
theorem quotedFrom_spelled {cs text rest : List Char} {fuel : Nat} {k : Cursor} (basic : ∀ c ∈ cs, isBasic c = true)
    (inside : k.column ≠ 0) (enough : k.rest.length ≤ fuel) (h : k.rest = spelled cs ++ '"' :: rest) :
    quotedFrom '"' text fuel k = some (text ++ cs, k.advance ((spelled cs).length + 1)) := by
  induction size : cs.length using Nat.strongRecOn generalizing cs text fuel k with
  | ind n ih =>
    obtain ⟨word, spaces, more, rfl, solid, blanks, ends, last⟩ := exists_word cs
    obtain ⟨basicWord, basicTail⟩ := List.forall_mem_append.mp basic
    rw [spelled_append, spelled_append, spelled_blanks blanks] at h ⊢
    have length : k.rest.length = (spelled word).length + spaces.length + (spelled more).length + rest.length + 1 := by
      simp only [h, List.length_append, List.length_cons]
      omega
    obtain ⟨fuel, rfl⟩ := Nat.exists_eq_add_one.mpr (show 0 < fuel by omega)
    by_cases none : spaces = []
    · obtain rfl := last none
      simp only [none, spelled_nil, List.append_nil] at h ⊢
      exact quotedFrom_word basicWord solid inside h
    · have basicMore := (List.forall_mem_append.mp basicTail).2
      have some : 0 < spaces.length := List.length_pos_iff.mpr none
      rw [List.append_assoc, List.append_assoc] at h
      have behind := Cursor.rest_advance (h.trans (List.append_assoc ..).symm)
      rw [List.length_append] at behind
      obtain ⟨d, ds, next, solidNext⟩ := @exists_cons_spelled more rest basicMore ends
      rw [next] at h
      have fewer : more.length < n := by
        simp only [← size, List.length_append]
        omega
      have fuelled : (k.advance ((spelled word).length + spaces.length)).rest.length ≤ fuel := by
        simp only [behind, List.length_append, List.length_cons]
        omega
      have inside' : (k.advance ((spelled word).length + spaces.length)).column ≠ 0 := by
        simp [inside]
      have later := @ih _ fewer more (text ++ word ++ spaces) fuel _ basicMore inside' fuelled behind rfl
      rw [quotedFrom_blanks basicWord solid inside blanks none solidNext h, later, Cursor.advance_advance]
      simp [Nat.add_assoc]

/-- **A text is quoted in YAML as it is in JSON.** -/
theorem quoted_quotation {s : String} {rest : List Char} {k : Cursor} (basic : IsBasic s)
    (h : k.rest = quotation s ++ rest) :
    quoted '"' k = some (s.toList, k.advance (quotation s).length) := by
  rw [quotation_eq] at h ⊢
  have opened : k.rest = '"' :: (spelled s.toList ++ '"' :: rest) := by simp [h]
  have shorter : (k.advance 1).rest.length ≤ k.rest.length + 1 := by
    have bound := Cursor.length_advance_le k 1
    omega
  rw [quoted, quotedFrom_spelled basic (Nat.succ_ne_zero _) shorter (Cursor.rest_advance_one opened)]
  simp [Nat.add_comm]

end Yaml
end EntityGen
