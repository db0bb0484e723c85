import EntityGen.Proofs.Json.Records

/-!
Which JSON values are read as what. A text is read from a string whose surrogates are paired, a flag from `true` and
`false`, a count from a natural number below `2 ^ 32` in digits, a list from an array; nothing else is, and null only
where a value may be null. Each reading has a relation of its own between values and what they say (`IsText`, `IsFlag`,
`IsCount`, `IsTexts`, `OrNull`), and what is read is what the value says. -/
namespace EntityGen.Json
variable {α : Type} {value : Json}

/-- A string that is this text. -/
def IsText (value : Json) (s : String) : Prop := ∃ literal, value = .string literal ∧ literal.text? = some s

def IsFlag (value : Json) (b : Bool) : Prop := value = .bool b

/-- This number in digits alone, without sign, fraction and exponent. -/
def IsCount (value : Json) (n : UInt32) : Prop := value = .number ⟨false, n.toNat, [], none⟩

/-- An array of these texts. -/
def IsTexts (value : Json) (texts : List String) : Prop :=
  ∃ items, value = .array items none ∧ List.Forall₂ IsText items texts

/-- Null, or a value that says something. -/
def OrNull (Is : Json → α → Prop) (value : Json) (o : Option α) : Prop :=
  value = .null ∧ o = none ∨ ∃ a, Is value a ∧ o = some a

/-! ### Refusals -/

theorem refuse_ne_ok (expected : Expected) (value : Json) (a : α) : refuse expected value ≠ .ok a := by
  intro h
  cases value with
  | number n =>
    obtain ⟨number, -, h⟩ := bind_eq_ok_iff.mp h
    cases number <;> cases h
  | string literal =>
    obtain ⟨_, -, h⟩ := bind_eq_ok_iff.mp h
    cases h
  | null | bool | array | object | broken => cases h

/-! ### Readings -/

theorem readText_eq_ok_iff {s : String} : reader.text value = .ok s ↔ IsText value s := by
  show readText value = _ ↔ _
  cases value with
  | string literal => simp [readText, readLiteral_eq_ok_iff, IsText]
  | null | bool | number | array | object | broken =>
    refine iff_of_false ?_ (by rintro ⟨_, ⟨⟩, _⟩)
    simp only [readText]
    exact refuse_ne_ok _ _ _

theorem readFlag_eq_ok_iff {b : Bool} : reader.flag value = .ok b ↔ IsFlag value b := by
  show readFlag value = _ ↔ _
  cases value with
  | bool b => simp [readFlag, IsFlag]
  | null | number | string | array | object | broken =>
    refine iff_of_false ?_ (by rintro ⟨⟩)
    simp only [readFlag]
    exact refuse_ne_ok _ _ _

/-- Only digits alone stand for an integer that is not negative. -/
theorem value?_eq_integer_iff {n : Numeral} {k : Nat} (small : k < Numeral.wordLimit) :
    n.value? = some (.integer k) ↔ n = ⟨false, k, [], none⟩ := by
  constructor
  · intro h
    have plain : n.isPlain = true := by
      by_contra written
      simp [Numeral.value?, written] at h
    have unsigned : n.negative = false := by
      cases signed : n.negative with
      | false => rfl
      | true =>
        simp only [Numeral.value?, plain, signed, if_true] at h
        split at h
        · have below := Number.integer.inj (Option.some.inj h)
          omega
        · simp at h
    have whole : n.whole = k := by
      simp only [Numeral.value?, plain, unsigned, if_true, Bool.false_eq_true, if_false] at h
      split at h
      · exact Int.ofNat.inj (Number.integer.inj (Option.some.inj h))
      · simp at h
    obtain ⟨negative, _, fraction, exponent⟩ := n
    simp only [Numeral.isPlain, Bool.and_eq_true, List.isEmpty_iff, Option.isNone_iff_eq_none] at plain
    obtain ⟨rfl, rfl⟩ := plain
    rw [← whole, ← unsigned]
  · rintro rfl
    exact value?_ofNat small

theorem readNumeral_eq_ok_iff {n : Numeral} {number : Number} :
    readNumeral n = .ok number ↔ n.value? = some number := by
  unfold readNumeral
  cases n.value? <;> simp

theorem readCount_eq_ok_iff {n : UInt32} : reader.count value = .ok n ↔ IsCount value n := by
  show readCount value = _ ↔ _
  cases value with
  | number numeral =>
    refine ⟨fun h => ?_, fun same => same ▸ readCount_ofNat n⟩
    obtain ⟨number, stands, h⟩ := bind_eq_ok_iff.mp h
    cases number with
    | float x => cases h
    | integer k =>
      simp only [pure, Except.pure] at h
      split at h
      · next bounds =>
        obtain rfl := Except.ok.inj h
        obtain ⟨m, rfl⟩ := Int.eq_ofNat_of_zero_le bounds.1
        have fits : m < UInt32.size := by
          rw [UInt32.size]
          omega
        have small : m < Numeral.wordLimit := by
          rw [Numeral.wordLimit]
          omega
        have digits := (value?_eq_integer_iff small).mp (readNumeral_eq_ok_iff.mp stands)
        show Json.number numeral = .number ⟨false, (UInt32.ofNat m).toNat, [], none⟩
        rw [digits, UInt32.toNat_ofNat_of_lt' fits]
      · cases h
  | null | bool | string | array | object | broken =>
    refine iff_of_false ?_ (by rintro ⟨⟩)
    simp only [readCount]
    exact refuse_ne_ok _ _ _

/-- A reading that null has not, with null allowed. -/
theorem readOptional_eq_ok_iff {read : Json → Except Fault α} {Is : Json → α → Prop} {o : Option α}
    (reads : ∀ a, read value = .ok a ↔ Is value a) (notNull : ∀ a, value = .null → ¬ Is value a) :
    reader.optional read value = .ok o ↔ OrNull Is value o := by
  by_cases null : value = .null
  · have nothing : reader.optional read value = .ok none := by
      rw [null]
      rfl
    have never : ∀ a, ¬ Is value a := fun a => notNull a null
    rw [nothing]
    constructor
    · intro h
      exact .inl ⟨null, (Except.ok.inj h).symm⟩
    · rintro (⟨-, rfl⟩ | ⟨a, is, -⟩)
      · rfl
      · exact absurd is (never a)
  · have given : reader.isNull value = .ok false := by
      show readNull value = _
      unfold readNull
      split
      · next same => exact absurd rfl null
      · rfl
    have unwrapped : reader.optional read value = (read value).map some := by
      rw [Reader.optional, given]
      cases read value <;> rfl
    rw [unwrapped, map_eq_ok_iff]
    simp [OrNull, null, reads, eq_comm]

theorem readList_eq_ok_iff {read : Json → Except Fault α} {as : List α} :
    reader.list read value = .ok as ↔
      ∃ items, value = .array items none ∧ List.Forall₂ (fun item a => read item = .ok a) items as := by
  show readList read value = _ ↔ _
  cases value with
  | array items ending =>
    cases ending with
    | none =>
      refine ⟨fun h => ⟨items, rfl, readList_array_eq_ok_iff.mp h⟩, ?_⟩
      rintro ⟨_, same, all⟩
      cases same
      exact readList_array_eq_ok_iff.mpr all
    | some b =>
      refine iff_of_false (fun h => ?_) (by rintro ⟨_, ⟨⟩, _⟩)
      obtain ⟨_, -, h⟩ := bind_eq_ok_iff.mp h
      cases h
  | null | bool | number | string | object | broken =>
    refine iff_of_false ?_ (by rintro ⟨_, ⟨⟩, _⟩)
    simp only [readList]
    exact refuse_ne_ok _ _ _

theorem readTexts_eq_ok_iff {texts : List String} :
    reader.list reader.text value = .ok texts ↔ IsTexts value texts := by
  simp only [readList_eq_ok_iff, readText_eq_ok_iff, IsTexts]

end EntityGen.Json
