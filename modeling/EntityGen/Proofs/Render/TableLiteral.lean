import EntityGen.Proofs.Render.Go.Items
import EntityGen.Proofs.Sequence
import EntityGen.Proofs.Text.Literal
import EntityGen.Render.Kotlin

/-!
The table's name in the declarations. Either dialect has it as a string literal, put between quotes as it is. Read by
the rules of the dialect it denotes the table exactly if the name has no character that the dialect gives a meaning in
literals (`table_denoted_iff`): neither quotes, nor backslashes, nor ends of lines, nor in Kotlin a dollar sign that
opens a template. -/
namespace EntityGen
open Text

namespace Go

/-! ### Literals in Go -/

/-- The escapes of one character and the bytes that they stand for. -/
def escapedBytes : List (Char × UInt8) :=
  [('a', 7), ('b', 8), ('f', 12), ('n', 10), ('r', 13), ('t', 9), ('v', 11), ('\\', 92), ('"', 34)]

def byte? (n : Nat) : Option (List UInt8) := if n < 256 then some [n.toUInt8] else none

/-- The encoding of a code point, of which the surrogates have none. -/
def codePoint? (n : Nat) : Option (List UInt8) :=
  if n.isValidChar then some (String.utf8EncodeChar (Char.ofNat n)) else none

def escape : Escape UInt8 :=
  firstOf [marked escapedBytes, numbered [] 8 3 byte?, numbered ['x'] 16 2 byte?, numbered ['u'] 16 4 codePoint?,
    numbered ['U'] 16 8 codePoint?]

theorem sparing_escape : escape.Sparing := by
  have byte (n : Nat) (units : List UInt8) (h : byte? n = some units) : units.length = 1 := by
    unfold byte? at h
    split at h
    · cases h
      rfl
    · exact absurd h nofun
  have point (n : Nat) (units : List UInt8) (h : codePoint? n = some units) : units.length ≤ 4 := by
    unfold codePoint? at h
    split at h
    · cases h
      rw [String.length_utf8EncodeChar]
      exact Char.utf8Size_le_four _
    · exact absurd h nofun
  refine sparing_firstOf ?_
  simp only [List.forall_mem_cons]
  refine ⟨sparing_marked _, sparing_numbered (by decide) ?_, sparing_numbered (by decide) ?_,
    sparing_numbered (by decide) ?_, sparing_numbered (by decide) ?_, List.forall_mem_nil _⟩
  · intro n units h
    rw [byte n units h]
    decide
  · intro n units h
    rw [byte n units h]
    decide
  · intro n units h
    exact Nat.le_trans (point n units h) (by decide)
  · intro n units h
    exact Nat.le_trans (point n units h) (by decide)

/-- Interpreted string literals, whose values are bytes. -/
def literal : LiteralRules UInt8 where
  units := String.utf8EncodeChar
  plain c _ := c != '"' && c != '\\' && c != '\n'
  escape := escape
  units_ne_nil c h := by
    have one := Char.utf8Size_pos c
    rw [← String.length_utf8EncodeChar, h] at one
    exact Nat.lt_irrefl 0 one
  quote _ := rfl
  backslash _ := rfl
  newline _ := rfl
  sparing := sparing_escape

theorem plain_literal_iff {c : Char} {s : List Char} :
    literal.plain c s = true ↔ c ≠ '"' ∧ c ≠ '\\' ∧ c ≠ '\n' := by
  simp [literal, and_assoc]

theorem verbatim_iff {after s : List Char} :
    Verbatim literal after s ↔ ∀ c ∈ s, c ≠ '"' ∧ c ≠ '\\' ∧ c ≠ '\n' := by
  induction s with
  | nil => simp [Verbatim]
  | cons c s ih => simp only [Verbatim, plain_literal_iff, ih, List.forall_mem_cons]

/-- A struct up to where the name of its table is returned. -/
def upToTable (options : Options) (className : String) (ms : List Member) : String :=
  "type " ++ className ++ " struct \x7b\n" ++ concat (ms.map fun m => "    " ++ m.line options ++ "\n") ++ "\x7d\n\n" ++
    "func (" ++ className ++ ") TableName() string \x7b\n" ++ "    return "

theorem declaration_eq (options : Options) (className table : String) (ms : List Member) :
    declaration options className table ms =
      upToTable options className ms ++ ("\"" ++ table ++ "\"" ++ "" ++ "\n" ++ "\x7d\n\n") := by
  have opening : "    return \"".toList = "    return ".toList ++ "\"".toList := by decide +kernel
  have closing : "\"\n".toList = "\"".toList ++ ("".toList ++ "\n".toList) := by decide +kernel
  rw [← String.toList_inj]
  unfold declaration upToTable
  simp only [String.toList_append, List.append_assoc]
  rw [opening, closing]
  simp only [List.append_assoc]

end Go

namespace Kotlin

/-! ### Literals in Kotlin -/

/-- The code units of a character. -/
def codeUnits (c : Char) : List UInt16 :=
  if c.toNat < 0x10000 then [c.toNat.toUInt16]
  else [(0xd800 + (c.toNat - 0x10000) / 0x400).toUInt16, (0xdc00 + (c.toNat - 0x10000) % 0x400).toUInt16]

/-- The escapes of one character and the code units that they stand for. -/
def escapedUnits : List (Char × UInt16) :=
  [('t', 9), ('b', 8), ('n', 10), ('r', 13), ('\'', 39), ('"', 34), ('\\', 92), ('$', 36)]

def escape : Escape UInt16 :=
  firstOf [marked escapedUnits, numbered ['u'] 16 4 fun n => some [n.toUInt16]]

theorem sparing_escape : escape.Sparing := by
  refine sparing_firstOf ?_
  simp only [List.forall_mem_cons]
  refine ⟨sparing_marked _, sparing_numbered (by decide) fun n units h => ?_, List.forall_mem_nil _⟩
  cases h
  exact (by decide : 1 ≤ 5)

/-- The characters go on with a name to its closing backtick. -/
def closesName : List Char → Bool
  | [] => false
  | c :: s => if c = '`' then true else if c = '\n' ∨ c = '\r' then false else closesName s

/-- What stands behind a dollar sign makes it a template: a brace, or a name, which may be between backticks. Names
begin with a letter or an underscore; which characters beyond ASCII are letters is told by `letter`. -/
def opensTemplate (letter : Char → Bool) : List Char → Bool
  | [] => false
  | '`' :: '`' :: _ => false
  | '`' :: s => closesName s
  | c :: _ => c == '\x7b' || c == '_' || c.isAlpha || 127 < c.toNat && letter c

/-- String literals in one line, whose values are code units. -/
def literal (letter : Char → Bool) : LiteralRules UInt16 where
  units := codeUnits
  plain c s := c != '"' && c != '\\' && c != '\n' && c != '\r' && !(c == '$' && opensTemplate letter s)
  escape := escape
  units_ne_nil c := by
    unfold codeUnits
    split <;> exact List.cons_ne_nil _ _
  quote _ := rfl
  backslash _ := rfl
  newline _ := rfl
  sparing := sparing_escape

theorem plain_literal_iff {letter : Char → Bool} {c : Char} {s : List Char} :
    (literal letter).plain c s = true ↔
      (c ≠ '"' ∧ c ≠ '\\' ∧ c ≠ '\n' ∧ c ≠ '\r') ∧ (c = '$' → opensTemplate letter s = false) := by
  simp [literal, and_assoc, imp_iff_not_or]

/-- A text that can stand in a literal as it is: without characters that end the literal or its line or begin an escape,
and without templates. -/
structure Untouched (letter : Char → Bool) (s : List Char) : Prop where
  plain : ∀ c ∈ s, c ≠ '"' ∧ c ≠ '\\' ∧ c ≠ '\n' ∧ c ≠ '\r'
  untemplated : ∀ before after, s = before ++ '$' :: after → opensTemplate letter after = false

theorem untouched_nil (letter : Char → Bool) : Untouched letter [] where
  plain := nofun
  untemplated before after h := by
    cases before <;> cases h

theorem untouched_cons {letter : Char → Bool} {c : Char} {s : List Char} :
    Untouched letter (c :: s) ↔
      ((c ≠ '"' ∧ c ≠ '\\' ∧ c ≠ '\n' ∧ c ≠ '\r') ∧ (c = '$' → opensTemplate letter s = false)) ∧
        Untouched letter s := by
  constructor
  · intro h
    obtain ⟨plain, untemplated⟩ := h
    rw [List.forall_mem_cons] at plain
    refine ⟨⟨plain.1, ?_⟩, plain.2, fun before after hs => untemplated (c :: before) after (congrArg _ hs)⟩
    rintro rfl
    exact untemplated [] s rfl
  · intro h
    obtain ⟨⟨plain, first⟩, others⟩ := h
    refine ⟨List.forall_mem_cons.mpr ⟨plain, others.plain⟩, fun before after hs => ?_⟩
    cases before with
    | nil =>
      cases hs
      exact first rfl
    | cons b before =>
      cases hs
      exact others.untemplated before after rfl

/-- Behind a text, the end of the literal and of its line closes no name and opens no template. -/
theorem closesName_append (s more : List Char) :
    closesName (s ++ '"' :: ')' :: '\n' :: more) = closesName s := by
  induction s with
  | nil => rfl
  | cons c s ih => rw [List.cons_append, closesName, closesName, ih]

theorem opensTemplate_append {letter : Char → Bool} (s more : List Char) :
    opensTemplate letter (s ++ '"' :: ')' :: '\n' :: more) = opensTemplate letter s := by
  cases s with
  | nil => rfl
  | cons c s =>
    by_cases hc : c = '`'
    · subst hc
      cases s with
      | nil => rfl
      | cons d s =>
        by_cases hd : d = '`'
        · subst hd
          rfl
        · have name := closesName_append (d :: s) more
          simpa [opensTemplate, hd] using name
    · simp [opensTemplate, hc]

theorem verbatim_iff {letter : Char → Bool} {s more : List Char} :
    Verbatim (literal letter) ('"' :: ')' :: '\n' :: more) s ↔ Untouched letter s := by
  induction s with
  | nil => exact iff_of_true trivial (untouched_nil letter)
  | cons c s ih => rw [Verbatim, plain_literal_iff, opensTemplate_append, ih, untouched_cons]

theorem declaration_eq (className table : String) (blocks : List (List String)) :
    declaration className table blocks =
      "@Entity\n@Table(name = " ++ ("\"" ++ table ++ "\"" ++ ")" ++ "\n" ++
        ("class " ++ className ++ " (\n" ++ concat (blocks.map layout) ++ ")\n\n")) := by
  have opening : "@Entity\n@Table(name = \"".toList = "@Entity\n@Table(name = ".toList ++ "\"".toList := by
    decide +kernel
  have closing : "\")\nclass ".toList = "\"".toList ++ (")".toList ++ ("\n".toList ++ "class ".toList)) := by
    decide +kernel
  rw [← String.toList_inj]
  unfold declaration
  simp only [String.toList_append, List.append_assoc]
  rw [opening, closing]
  simp only [List.append_assoc]

end Kotlin

/-! ### The table -/

/-- **What the declarations call the table.** In a struct, the literal that is returned denotes the table exactly if
there are no quotes, backslashes and ends of lines in its name; in a class, the literal of the annotation denotes it
exactly if its name can stand in a literal as it is. -/
theorem table_denoted_iff (e : Entity) (options : Go.Options) (letter : Char → Bool) :
    (∀ text, (Go.render options e).outcome = .ok text →
      ∃ own, (e.items.mapM fun item => (Go.members e.className item).outcome) = .ok own ∧
        ∃ source, text = Go.upToTable options e.className own.flatten ++ source ∧
          (Denotes Go.literal source e.table ↔ ∀ c ∈ e.table.toList, c ≠ '"' ∧ c ≠ '\\' ∧ c ≠ '\n')) ∧
    (∀ text, Kotlin.render e = .ok text →
      ∃ source, text = "@Entity\n@Table(name = " ++ source ∧
        (Denotes (Kotlin.literal letter) source e.table ↔ Kotlin.Untouched letter e.table.toList)) := by
  constructor
  · intro text written
    rw [Go.outcome_render] at written
    obtain ⟨own, run, rfl⟩ := map_eq_ok_iff.mp written
    refine ⟨own, run, _, Go.declaration_eq options e.className e.table own.flatten, ?_⟩
    rw [denotes_iff (by decide) (by decide), Go.verbatim_iff]
  · intro text written
    obtain ⟨blocks, -, made⟩ := bind_eq_ok_iff.mp written
    cases made
    refine ⟨_, Kotlin.declaration_eq e.className e.table blocks, ?_⟩
    rw [denotes_iff (by decide) (by decide)]
    exact Kotlin.verbatim_iff

def Entity.tag : Entity where
  app := "blog"
  className := "Tag"
  table := "blog_tag"
  columns := [⟨"label", "label", false, .char, .string, .none, [], some 80, false, true, false, true⟩]

theorem table_denoted_iff_tag :
    (∃ text own source, (Go.render {} Entity.tag).outcome = .ok text ∧
      (Entity.tag.items.mapM fun item => (Go.members "Tag" item).outcome) = .ok own ∧
      text = Go.upToTable {} "Tag" own.flatten ++ source ∧ Denotes Go.literal source "blog_tag") ∧
    ∃ text source, Kotlin.render Entity.tag = .ok text ∧ text = "@Entity\n@Table(name = " ++ source ∧
      Denotes (Kotlin.literal Char.isAlpha) source "blog_tag" := by
  obtain ⟨struct, classes⟩ := table_denoted_iff Entity.tag {} Char.isAlpha
  obtain ⟨own, run, source, shape, denoted⟩ := struct _ rfl
  obtain ⟨source', shape', denoted'⟩ := classes _ rfl
  have plain : ∀ c ∈ "blog_tag".toList, c ≠ '"' ∧ c ≠ '\\' ∧ c ≠ '\n' := by simp
  have untouched : Kotlin.Untouched Char.isAlpha "blog_tag".toList := by
    refine ⟨by simp, fun before after h => ?_⟩
    have dollar : '$' ∈ "blog_tag".toList := by simp [h]
    exact absurd dollar (by decide)
  exact ⟨⟨_, own, source, rfl, run, shape, denoted.mpr plain⟩, _, source', rfl, shape', denoted'.mpr untouched⟩

/-- A model over a table of another schema, whose name is quoted in two parts. -/
def Entity.quoted : Entity where
  app := "blog"
  className := "Post"
  table := "\"blog\".\"post\""

/-- The quotes end either literal before it has begun. -/
theorem quoted_table_lost :
    (∃ source, (Go.render {} Entity.quoted).outcome = .ok (Go.upToTable {} "Post" [] ++ source) ∧
      Denotes Go.literal source "" ∧ ¬ Denotes Go.literal source Entity.quoted.table) ∧
    ∃ source, Kotlin.render Entity.quoted = .ok ("@Entity\n@Table(name = " ++ source) ∧
      Denotes (Kotlin.literal Char.isAlpha) source "" ∧
      ¬ Denotes (Kotlin.literal Char.isAlpha) source Entity.quoted.table := by
  have opening : Entity.quoted.table.toList = '"' :: "blog\".\"post\"".toList := by decide +kernel
  have empty {ν : Type} (rules : LiteralRules ν) (more : String) :
      Denotes rules ("\"" ++ Entity.quoted.table ++ more) "" ∧
        ¬ Denotes rules ("\"" ++ Entity.quoted.table ++ more) Entity.quoted.table := by
    have read : Denotes rules ("\"" ++ Entity.quoted.table ++ more) "" :=
      ⟨_, _, by rw [String.toList_append, String.toList_append, opening]; rfl, .close⟩
    refine ⟨read, fun whole => ?_⟩
    have value := whole.value_eq read
    rw [LiteralRules.value, opening, List.flatMap_cons] at value
    exact rules.units_ne_nil '"' (List.append_eq_nil_iff.mp value).1
  constructor
  · refine ⟨_, congrArg Except.ok (Go.declaration_eq {} "Post" Entity.quoted.table []), ?_⟩
    simp only [String.append_assoc]
    rw [← String.append_assoc]
    exact empty Go.literal _
  · refine ⟨_, congrArg Except.ok (Kotlin.declaration_eq "Post" Entity.quoted.table []), ?_⟩
    simp only [String.append_assoc]
    rw [← String.append_assoc]
    exact empty (Kotlin.literal Char.isAlpha) _

end EntityGen
