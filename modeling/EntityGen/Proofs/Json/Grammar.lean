import EntityGen.Json.Parser
import Mathlib.Computability.Language

/-!
JSON as a grammar. The texts of a value are a language, put together as the value is: blanks may stand around
every value and every mark, a number has the digits of its parts, and a code point between quotes can be spelled
in more than one way. A value that is broken has no text, so a value with a text is whole
(`skipped_of_mem_texts`). -/
namespace EntityGen.Json

/-- One character. -/
def mark (c : Char) : Language Char := {[c]}

def blanks : Language Char := {cs | ∀ c ∈ cs, isBlank c = true}

/-- Texts with blanks around them. -/
def spaced (l : Language Char) : Language Char := blanks * (l * blanks)

/-! ### Numbers -/

/-- Decimal digits, at least one. -/
def IsDigits (ds : List Nat) : Prop := ds ≠ [] ∧ ∀ d ∈ ds, d < 10

/-- A natural number in digits. None but zero starts with `0`. -/
def wholeTexts (n : Nat) : Language Char :=
  {cs | ∃ ds, IsDigits ds ∧ (ds.head? = some 0 → ds = [0]) ∧ ofDigits ds = n ∧ ds.map Nat.digitChar = cs}

/-- The digits after the point, and the point before them. -/
def fractionTexts : List Nat → Language Char
  | [] => 1
  | d :: ds => {cs | IsDigits (d :: ds) ∧ '.' :: (d :: ds).map Nat.digitChar = cs}

/-- A sign of an exponent and the factor that it stands for. -/
inductive IsSign : List Char → Int → Prop
  | none : IsSign [] 1
  | plus : IsSign ['+'] 1
  | minus : IsSign ['-'] (-1)

def exponentTexts : Option Int → Language Char
  | none => 1
  | some e =>
    {cs | ∃ c sign factor ds, (c = 'e' ∨ c = 'E') ∧ IsSign sign factor ∧ IsDigits ds ∧
      factor * ofDigits ds = e ∧ c :: (sign ++ ds.map Nat.digitChar) = cs}

def Numeral.texts (n : Numeral) : Language Char :=
  (if n.negative then mark '-' else 1) *
    (wholeTexts n.whole * (fractionTexts n.fraction * exponentTexts n.exponent))

/-! ### Literals -/

/-- A code point as it is spelled between quotes: a character that is no control character stands for itself,
and an escape has a letter or four hexadecimal digits. -/
inductive Spells : Nat → List Char → Prop
  | plain {c : Char} (quote : c ≠ '"') (backslash : c ≠ '\\') (control : 0x20 ≤ c.toNat) : Spells c.toNat [c]
  | letter {c stands : Char} (h : escape? c = some stands) : Spells stands.toNat ['\\', c]
  | hex {a b c d : Char} {w x y z : Nat} (ha : hexDigit? a = some w) (hb : hexDigit? b = some x)
      (hc : hexDigit? c = some y) (hd : hexDigit? d = some z) :
      Spells (((w * 16 + x) * 16 + y) * 16 + z) ['\\', 'u', a, b, c, d]

def Literal.texts (literal : Literal) : Language Char :=
  {cs | ∃ parts, List.Forall₂ Spells literal parts ∧ '"' :: (parts.flatten ++ ['"']) = cs}

/-! ### Values -/

mutual

/-- The texts of a value, without blanks around it. -/
def texts : Json → Language Char
  | null => {['n', 'u', 'l', 'l']}
  | bool true => {['t', 'r', 'u', 'e']}
  | bool false => {['f', 'a', 'l', 's', 'e']}
  | number n => n.texts
  | string literal => literal.texts
  | array items none => mark '[' * (itemTexts items * mark ']')
  | object members none => mark '\x7b' * (memberTexts members * mark '\x7d')
  | array _ (some _) | object _ (some _) | broken _ => 0

/-- Items with commas between them. -/
def itemTexts : List Json → Language Char
  | [] => blanks
  | [item] => spaced item.texts
  | item :: next :: rest => spaced item.texts * (mark ',' * itemTexts (next :: rest))

/-- Members with commas between them. -/
def memberTexts : List (Literal × Json) → Language Char
  | [] => blanks
  | [(key, value)] => spaced key.texts * (mark ':' * spaced value.texts)
  | (key, value) :: next :: rest =>
    spaced key.texts * (mark ':' * spaced value.texts) * (mark ',' * memberTexts (next :: rest))

end

/-- The texts of a value as a whole document. -/
def documents (j : Json) : Language Char := spaced j.texts

/-! ### Membership -/

variable {l : Language Char} {cs : List Char}

theorem mem_mark_mul {c : Char} : cs ∈ mark c * l ↔ ∃ tail ∈ l, c :: tail = cs := by
  rw [Language.mem_mul]
  constructor
  · rintro ⟨_, rfl, tail, ht, rfl⟩
    exact ⟨tail, ht, rfl⟩
  · rintro ⟨tail, ht, rfl⟩
    exact ⟨[c], rfl, tail, ht, rfl⟩

theorem mem_mul_mark {c : Char} : cs ∈ l * mark c ↔ ∃ text ∈ l, text ++ [c] = cs := by
  rw [Language.mem_mul]
  constructor
  · rintro ⟨text, ht, _, rfl, rfl⟩
    exact ⟨text, ht, rfl⟩
  · rintro ⟨text, ht, rfl⟩
    exact ⟨text, ht, [c], rfl, rfl⟩

theorem mem_spaced :
    cs ∈ spaced l ↔ ∃ before ∈ blanks, ∃ text ∈ l, ∃ after ∈ blanks, before ++ (text ++ after) = cs := by
  simp only [spaced, Language.mem_mul]
  constructor
  · rintro ⟨before, hb, _, ⟨text, ht, after, ha, rfl⟩, rfl⟩
    exact ⟨before, hb, text, ht, after, ha, rfl⟩
  · rintro ⟨before, hb, text, ht, after, ha, rfl⟩
    exact ⟨before, hb, _, ⟨text, ht, after, ha, rfl⟩, rfl⟩

theorem nil_mem_blanks : [] ∈ blanks := nofun

/-- Blanks need not be there. -/
theorem mem_spaced_of_mem (h : cs ∈ l) : cs ∈ spaced l :=
  mem_spaced.mpr ⟨[], nil_mem_blanks, cs, h, [], nil_mem_blanks, by simp⟩

mutual

/-- A value with a text can be passed over. -/
theorem skipped_of_mem_texts : ∀ (j : Json) {cs : List Char}, cs ∈ j.texts → j.skipped = none
  | null, _, _ | bool _, _, _ | number _, _, _ | string _, _, _ => rfl
  | array items none, cs, h => by
    obtain ⟨_, h, -⟩ := mem_mark_mul.mp (by simpa only [texts] using h)
    obtain ⟨_, h, -⟩ := mem_mul_mark.mp h
    rw [skipped, skippedItems_of_mem_itemTexts items h]
    rfl
  | object members none, cs, h => by
    obtain ⟨_, h, -⟩ := mem_mark_mul.mp (by simpa only [texts] using h)
    obtain ⟨_, h, -⟩ := mem_mul_mark.mp h
    rw [skipped, skippedMembers_of_mem_memberTexts members h]
    rfl
  | array _ (some _), _, h | object _ (some _), _, h | broken _, _, h => by
    simp only [texts, Language.notMem_zero] at h

theorem skippedItems_of_mem_itemTexts :
    ∀ (items : List Json) {cs : List Char}, cs ∈ itemTexts items → skippedItems items = none
  | [], _, _ => rfl
  | [item], cs, h => by
    obtain ⟨_, -, _, h, -⟩ := mem_spaced.mp (by simpa only [itemTexts] using h)
    rw [skippedItems, skipped_of_mem_texts item h]
    rfl
  | item :: next :: rest, cs, h => by
    obtain ⟨_, first, _, others, -⟩ := Language.mem_mul.mp (by simpa only [itemTexts] using h)
    obtain ⟨_, -, _, first, -⟩ := mem_spaced.mp first
    obtain ⟨_, others, -⟩ := mem_mark_mul.mp others
    rw [skippedItems, skipped_of_mem_texts item first, skippedItems_of_mem_itemTexts (next :: rest) others]
    rfl

theorem skippedMembers_of_mem_memberTexts :
    ∀ (members : List (Literal × Json)) {cs : List Char}, cs ∈ memberTexts members →
      skippedMembers members = none
  | [], _, _ => rfl
  | [(key, value)], cs, h => by
    obtain ⟨_, -, _, h, -⟩ := Language.mem_mul.mp (by simpa only [memberTexts] using h)
    obtain ⟨_, h, -⟩ := mem_mark_mul.mp h
    obtain ⟨_, -, _, h, -⟩ := mem_spaced.mp h
    rw [skippedMembers, skipped_of_mem_texts value h]
    rfl
  | (key, value) :: next :: rest, cs, h => by
    obtain ⟨_, first, _, others, -⟩ := Language.mem_mul.mp (by simpa only [memberTexts] using h)
    obtain ⟨_, -, _, first, -⟩ := Language.mem_mul.mp first
    obtain ⟨_, first, -⟩ := mem_mark_mul.mp first
    obtain ⟨_, -, _, first, -⟩ := mem_spaced.mp first
    obtain ⟨_, others, -⟩ := mem_mark_mul.mp others
    rw [skippedMembers, skipped_of_mem_texts value first,
      skippedMembers_of_mem_memberTexts (next :: rest) others]
    rfl

end

end EntityGen.Json
