import Mathlib.Data.List.Basic

/-!
String literals. A language's rules say which characters stand for themselves and what an escape stands for; `Reads`
reads a literal by them, up to its closing quote. An escape takes more characters than it stands for, so that a text
put between quotes as it is denotes itself only if each of its characters stands for itself (`denotes_iff`). -/
namespace EntityGen.Text

variable {ν : Type}

/-! ### Escapes -/

/-- What stands behind a backslash: the units that it stands for, and the rest of the source. -/
abbrev Escape (ν : Type) := List Char → Option (List ν × List Char)

/-- An escape stands for no more units than it takes characters, and it takes a quote only alone. -/
def Escape.Sparing (escape : Escape ν) : Prop :=
  ∀ s units rest, escape s = some (units, rest) →
    ∃ taken, s = taken ++ rest ∧ units.length ≤ taken.length ∧ ('"' ∈ taken → taken = ['"'])

/-- A single character that stands for a unit. -/
def marked (table : List (Char × ν)) : Escape ν
  | [] => none
  | c :: s => (table.lookup c).map fun unit => ([unit], s)

theorem sparing_marked (table : List (Char × ν)) : (marked table).Sparing := by
  intro s units rest h
  cases s with
  | nil => exact absurd h nofun
  | cons c s =>
    obtain ⟨unit, -, made⟩ := Option.map_eq_some_iff.mp h
    cases made
    exact ⟨[c], rfl, Nat.le_refl 1, fun quote => by rw [List.mem_singleton.mp quote]⟩

/-- The first of several escapes that it is. -/
def firstOf : List (Escape ν) → Escape ν
  | [], _ => none
  | escape :: others, s => (escape s).or (firstOf others s)

theorem sparing_firstOf {escapes : List (Escape ν)} (h : ∀ escape ∈ escapes, escape.Sparing) :
    (firstOf escapes).Sparing := by
  induction escapes with
  | nil => exact fun s units rest made => absurd made nofun
  | cons escape others ih =>
    obtain ⟨first, others⟩ := List.forall_mem_cons.mp h
    intro s units rest made
    rcases Option.or_eq_some_iff.mp made with made | ⟨-, made⟩
    · exact first s units rest made
    · exact ih others s units rest made

/-- The value of a digit, its letters in either case. -/
def digit? (base : Nat) (c : Char) : Option Nat := ("0123456789abcdef".toList.take base).idxOf? c.toLower

/-- The number that the next `count` digits continue, and what follows them. -/
def numeral (base : Nat) : Nat → Nat → List Char → Option (Nat × List Char)
  | 0, n, s => some (n, s)
  | _ + 1, _, [] => none
  | count + 1, n, c :: s => (digit? base c).bind fun d => numeral base count (n * base + d) s

theorem exists_of_numeral {base count n : Nat} {s : List Char} {value : Nat} {rest : List Char}
    (h : numeral base count n s = some (value, rest)) :
    ∃ digits, s = digits ++ rest ∧ digits.length = count ∧ ∀ c ∈ digits, (digit? base c).isSome := by
  induction count generalizing n s with
  | zero =>
    cases h
    exact ⟨[], rfl, rfl, nofun⟩
  | succ count ih =>
    cases s with
    | nil => exact absurd h nofun
    | cons c s =>
      obtain ⟨d, hd, h⟩ := Option.bind_eq_some_iff.mp h
      obtain ⟨digits, rfl, length, all⟩ := ih h
      refine ⟨c :: digits, rfl, congrArg (· + 1) length, List.forall_mem_cons.mpr ⟨?_, all⟩⟩
      rw [hd]
      rfl

theorem digit?_quote (base : Nat) : digit? base '"' = none := by
  have absent : '"' ∉ "0123456789abcdef".toList := by decide
  exact List.idxOf?_eq_none_iff.mpr fun mem => absent (List.mem_of_mem_take mem)

/-- A mark and a number of so many digits, which has to stand for something. -/
def numbered (mark : List Char) (base count : Nat) (encode : Nat → Option (List ν)) : Escape ν := fun s =>
  (mark.isPrefixOf? s).bind fun digits =>
    (numeral base count 0 digits).bind fun number => (encode number.1).map (·, number.2)

theorem sparing_numbered {mark : List Char} {base count : Nat} {encode : Nat → Option (List ν)}
    (quote : '"' ∉ mark) (short : ∀ n units, encode n = some units → units.length ≤ mark.length + count) :
    (numbered mark base count encode).Sparing := by
  intro s units rest h
  obtain ⟨digits, hm, h⟩ := Option.bind_eq_some_iff.mp h
  obtain ⟨⟨n, rest'⟩, hn, h⟩ := Option.bind_eq_some_iff.mp h
  obtain ⟨units', he, made⟩ := Option.map_eq_some_iff.mp h
  cases made
  obtain ⟨digits, rfl, length, all⟩ := exists_of_numeral hn
  have whole := List.isPrefixOf?_eq_some_iff_append_eq.mp hm
  refine ⟨mark ++ digits, ?_, ?_, fun mem => ?_⟩
  · rw [List.append_assoc, whole]
  · rw [List.length_append, length]
    exact short n _ he
  · rcases List.mem_append.mp mem with mem | mem
    · exact absurd mem quote
    · have digit := all _ mem
      rw [digit?_quote] at digit
      exact absurd digit Bool.false_ne_true

/-! ### Literals -/

/-- How the string literals of a language are written. None goes on in a second line. -/
structure LiteralRules (ν : Type) where
  /-- What a character is in the value of a text. -/
  units : Char → List ν
  /-- The character stands for itself before what follows it. -/
  plain : Char → List Char → Bool
  escape : Escape ν
  units_ne_nil (c : Char) : units c ≠ []
  quote (s : List Char) : plain '"' s = false
  backslash (s : List Char) : plain '\\' s = false
  newline (s : List Char) : plain '\n' s = false
  sparing : escape.Sparing

/-- What a literal stands for, read from behind its opening quote, and what follows its closing quote. -/
inductive Reads (rules : LiteralRules ν) : List Char → List ν → List Char → Prop
  | close {rest : List Char} : Reads rules ('"' :: rest) [] rest
  | plain {c : Char} {s rest : List Char} {value : List ν} (stands : rules.plain c s = true)
    (more : Reads rules s value rest) : Reads rules (c :: s) (rules.units c ++ value) rest
  | escape {s after rest : List Char} {units value : List ν} (stands : rules.escape s = some (units, after))
    (more : Reads rules after value rest) : Reads rules ('\\' :: s) (units ++ value) rest

section Reading
variable {rules : LiteralRules ν}

/-- A source reads in one way. -/
theorem Reads.unique {s rest rest' : List Char} {value value' : List ν} (h : Reads rules s value rest)
    (h' : Reads rules s value' rest') : value = value' ∧ rest = rest' := by
  induction h generalizing value' with
  | close =>
    cases h' with
    | close => exact ⟨rfl, rfl⟩
    | plain stands => exact absurd (stands.symm.trans (rules.quote _)) (by decide)
  | plain stands _ ih =>
    cases h' with
    | close => exact absurd (stands.symm.trans (rules.quote _)) (by decide)
    | plain _ more =>
      obtain ⟨rfl, rfl⟩ := ih more
      exact ⟨rfl, rfl⟩
    | escape => exact absurd (stands.symm.trans (rules.backslash _)) (by decide)
  | escape stands _ ih =>
    cases h' with
    | plain plain => exact absurd (plain.symm.trans (rules.backslash _)) (by decide)
    | escape stands' more =>
      cases stands.symm.trans stands'
      obtain ⟨rfl, rfl⟩ := ih more
      exact ⟨rfl, rfl⟩

/-- A line without quotes and escapes does not end a literal. -/
theorem not_reads_of_line {line : List Char} (quote : '"' ∉ line) (backslash : '\\' ∉ line) (more : List Char)
    (value : List ν) (rest : List Char) : ¬ Reads rules (line ++ '\n' :: more) value rest := by
  induction line generalizing value with
  | nil =>
    intro h
    cases h with
    | plain stands => exact absurd (stands.symm.trans (rules.newline _)) (by decide)
  | cons c line ih =>
    simp only [List.mem_cons, not_or] at quote backslash
    intro h
    rw [List.cons_append] at h
    cases h with
    | close => exact quote.1 rfl
    | plain _ h => exact ih quote.2 backslash.2 _ h
    | escape => exact backslash.1 rfl

/-- Every character of a text stands for itself before the rest of the text and what follows. -/
def Verbatim (rules : LiteralRules ν) (after : List Char) : List Char → Prop
  | [] => True
  | c :: s => rules.plain c (s ++ after) = true ∧ Verbatim rules after s

theorem reads_of_verbatim {tail s : List Char} (h : Verbatim rules ('"' :: tail) s) :
    Reads rules (s ++ '"' :: tail) (s.flatMap rules.units) tail := by
  induction s with
  | nil => exact .close
  | cons c s ih => exact .plain h.1 (ih h.2)

/-- A character has units. -/
theorem length_le_flatMap_units (s : List Char) : s.length ≤ (s.flatMap rules.units).length := by
  induction s with
  | nil => exact Nat.le_refl 0
  | cons c s ih =>
    have one := List.length_pos_of_ne_nil (rules.units_ne_nil c)
    rw [List.flatMap_cons, List.length_append, List.length_cons]
    omega

/-- A text between quotes is read as no more than its own value, and as less if an escape or a quote stands in it.
What follows must not end the literal, in case that an escape takes the closing quote. -/
theorem length_le_of_reads {tail s rest : List Char} {value : List ν}
    (unread : ∀ value rest, ¬ Reads rules tail value rest) (h : Reads rules (s ++ '"' :: tail) value rest) :
    value.length ≤ (s.flatMap rules.units).length ∧
      (value.length = (s.flatMap rules.units).length → Verbatim rules ('"' :: tail) s) := by
  generalize source : s ++ '"' :: tail = whole at h
  induction h generalizing s with
  | close =>
    refine ⟨Nat.zero_le _, fun same => ?_⟩
    have all := @length_le_flatMap_units _ rules s
    rw [← same, List.length_nil, Nat.le_zero, List.length_eq_zero_iff] at all
    rw [all]
    trivial
  | @plain c s' rest value stands _ ih =>
    cases s with
    | nil =>
      cases source
      exact absurd (stands.symm.trans (rules.quote _)) (by decide)
    | cons c s =>
      cases source
      obtain ⟨short, tight⟩ := ih rfl
      simp only [List.flatMap_cons, List.length_append]
      exact ⟨by omega, fun same => ⟨stands, tight (by omega)⟩⟩
  | @escape s' after rest units value stands more ih =>
    cases s with
    | nil => cases source
    | cons c s =>
      cases source
      obtain ⟨taken, whole, sparing, quote⟩ := rules.sparing _ _ _ stands
      have inside : ∃ left, s = taken ++ left ∧ after = left ++ '"' :: tail := by
        rcases List.append_eq_append_iff.mp whole with ⟨excess, htaken, closing⟩ | inside
        · cases excess with
          | nil => exact ⟨[], by simp [htaken], closing.symm⟩
          | cons c excess =>
            -- The escape takes the closing quote, so it is that quote alone, and the literal would go on in `tail`.
            cases closing
            have alone := quote (by simp [htaken])
            rw [htaken] at alone
            obtain ⟨rfl, -, rfl⟩ : s = [] ∧ '"' = '"' ∧ excess = [] := by
              cases s with
              | nil => simpa using alone
              | cons c s => simp at alone
            exact absurd more (unread _ _)
        · exact inside
      obtain ⟨left, rfl, rfl⟩ := inside
      obtain ⟨short, -⟩ := ih rfl
      have all := @length_le_flatMap_units _ rules taken
      have one := List.length_pos_of_ne_nil (rules.units_ne_nil '\\')
      simp only [List.flatMap_cons, List.flatMap_append, List.length_append]
      exact ⟨by omega, fun same => by omega⟩

/-! ### Texts between quotes -/

def LiteralRules.value (rules : LiteralRules ν) (text : String) : List ν := text.toList.flatMap rules.units

/-- The source begins with a literal of the text. -/
def Denotes (rules : LiteralRules ν) (source text : String) : Prop :=
  ∃ s rest, source.toList = '"' :: s ∧ Reads rules s (rules.value text) rest

theorem Denotes.value_eq {source text text' : String} (h : Denotes rules source text)
    (h' : Denotes rules source text') : rules.value text = rules.value text' := by
  obtain ⟨s, rest, hs, read⟩ := h
  obtain ⟨s', rest', hs', read'⟩ := h'
  cases hs.symm.trans hs'
  exact (read.unique read').1

/-- **A text between quotes denotes itself** exactly if each of its characters stands for itself. -/
theorem denotes_iff {line : String} (quote : '"' ∉ line.toList) (backslash : '\\' ∉ line.toList) (more text : String) :
    Denotes rules ("\"" ++ text ++ "\"" ++ line ++ "\n" ++ more) text ↔
      Verbatim rules ('"' :: (line.toList ++ '\n' :: more.toList)) text.toList := by
  have source : ("\"" ++ text ++ "\"" ++ line ++ "\n" ++ more).toList =
      '"' :: (text.toList ++ '"' :: (line.toList ++ '\n' :: more.toList)) := by
    simp
  constructor
  · intro h
    obtain ⟨s, rest, hs, read⟩ := h
    cases source.symm.trans hs
    exact (length_le_of_reads (not_reads_of_line quote backslash _) read).2 rfl
  · intro h
    exact ⟨_, _, source, reads_of_verbatim h⟩

end Reading

end EntityGen.Text
