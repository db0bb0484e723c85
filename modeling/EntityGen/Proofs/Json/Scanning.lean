import EntityGen.Proofs.Json.Grammar

/-!
Numbers and literals are scanned to their ends. A number ends where its digits do, so it has to be told what may
follow it (`Ends`); a literal ends at its quote, whatever follows (`literalOf_append`). -/
namespace EntityGen.Json

/-- What follows a value in a document: nothing, a blank, or a mark. -/
def Ends (rest : List Char) : Prop :=
  ∀ c ∈ rest.head?, isBlank c = true ∨ c = ',' ∨ c = ']' ∨ c = '\x7d'

/-! ### Blanks -/

theorem skipBlank_append {before : List Char} (h : before ∈ blanks) (cs : List Char) :
    skipBlank (before ++ cs) = skipBlank cs := List.dropWhile_append_of_pos h

theorem skipBlank_cons {c : Char} (h : isBlank c = false) (cs : List Char) : skipBlank (c :: cs) = c :: cs := by
  simp [skipBlank, h]

theorem skipBlank_of_blanks {cs : List Char} (h : cs ∈ blanks) : skipBlank cs = [] := by
  have := skipBlank_append h []
  rwa [List.append_nil] at this

theorem ends_nil : Ends [] := nofun

/-- Blanks and then a mark end a number. -/
theorem ends_append {after rest : List Char} (h : after ∈ blanks) (hr : Ends rest) : Ends (after ++ rest) := by
  cases after with
  | nil => exact hr
  | cons c after =>
    intro d hd
    cases hd
    exact .inl (h c (List.mem_cons_self ..))

/-- No character that goes on a number ends it. -/
theorem Ends.head {rest : List Char} (h : Ends rest) :
    ∀ c ∈ rest.head?, digit? c = none ∧ c ≠ '.' ∧ c ≠ 'e' ∧ c ≠ 'E' := by
  intro c hc
  have marks := h c hc
  simp only [isBlank, Bool.or_eq_true, beq_iff_eq] at marks
  rcases marks with ((((rfl | rfl) | rfl) | rfl) | rfl | rfl | rfl) <;> decide

/-! ### Digits -/

theorem digit?_digitChar {d : Nat} (h : d < 10) : digit? (Nat.digitChar d) = some d := by
  revert d
  decide

theorem digits_append {ds : List Nat} {rest : List Char} (small : ∀ d ∈ ds, d < 10)
    (hr : ∀ c ∈ rest.head?, digit? c = none) : digits (ds.map Nat.digitChar ++ rest) = (ds, rest) := by
  induction ds with
  | nil =>
    cases rest with
    | nil => rfl
    | cons c rest => simp only [List.map_nil, List.nil_append, digits, hr c rfl]
  | cons d ds ih =>
    obtain ⟨hd, small⟩ := List.forall_mem_cons.mp small
    simp only [List.map_cons, List.cons_append, digits, digit?_digitChar hd, ih small]

theorem digits1_append {ds : List Nat} {rest : List Char} (h : IsDigits ds)
    (hr : ∀ c ∈ rest.head?, digit? c = none) : digits1 (ds.map Nat.digitChar ++ rest) = .ok (ds, rest) := by
  unfold digits1
  rw [digits_append h.2 hr]
  cases ds with
  | nil => exact absurd rfl h.1
  | cons d ds => rfl

/-- The first of some digits is a digit. -/
theorem IsDigits.head {ds : List Nat} (h : IsDigits ds) (rest : List Char) :
    ∃ d < 10, (ds.map Nat.digitChar ++ rest).head? = some (Nat.digitChar d) := by
  cases ds with
  | nil => exact absurd rfl h.1
  | cons d ds => exact ⟨d, h.2 d (List.mem_cons_self ..), rfl⟩

/-! ### Numbers -/

theorem whole_append {n : Nat} {cs rest : List Char} (h : cs ∈ wholeTexts n)
    (hr : ∀ c ∈ rest.head?, digit? c = none) : whole (cs ++ rest) = .ok (n, rest) := by
  obtain ⟨ds, isDigits, leading, rfl, rfl⟩ := h
  unfold whole
  rw [digits1_append isDigits hr]
  simp only [bind, Except.bind]
  split
  · exact absurd (leading rfl) (by simp)
  · rfl

theorem fraction_append {ds : List Nat} {cs rest : List Char} (h : cs ∈ fractionTexts ds)
    (hr : ∀ c ∈ rest.head?, digit? c = none ∧ c ≠ '.') : fraction (cs ++ rest) = .ok (ds, rest) := by
  cases ds with
  | nil =>
    obtain rfl := Language.mem_one cs |>.mp h
    rw [List.nil_append]
    unfold fraction
    split
    · exact absurd rfl (hr '.' rfl).2
    · rfl
  | cons d ds =>
    obtain ⟨isDigits, rfl⟩ := h
    exact digits1_append isDigits fun c hc => (hr c hc).1

theorem exponentSign_append {sign : List Char} {factor : Int} (h : IsSign sign factor) {ds : List Nat}
    (isDigits : IsDigits ds) (rest : List Char) :
    exponentSign (sign ++ (ds.map Nat.digitChar ++ rest)) = (factor, ds.map Nat.digitChar ++ rest) := by
  cases h with
  | none =>
    obtain ⟨d, small, head⟩ := isDigits.head rest
    have noSign : ∀ d < 10, Nat.digitChar d ≠ '+' ∧ Nat.digitChar d ≠ '-' := by decide
    rw [List.nil_append]
    unfold exponentSign
    split
    · next same =>
      rw [same] at head
      exact absurd (Option.some.inj head).symm (noSign d small).1
    · next same =>
      rw [same] at head
      exact absurd (Option.some.inj head).symm (noSign d small).2
    · rfl
  | plus => rfl
  | minus => rfl

theorem exponent_append {e : Option Int} {cs rest : List Char} (h : cs ∈ exponentTexts e)
    (hr : ∀ c ∈ rest.head?, digit? c = none ∧ c ≠ 'e' ∧ c ≠ 'E') : exponent (cs ++ rest) = .ok (e, rest) := by
  cases e with
  | none =>
    obtain rfl := Language.mem_one cs |>.mp h
    cases rest with
    | nil => rfl
    | cons c rest =>
      obtain ⟨-, lower, upper⟩ := hr c rfl
      simp [exponent, lower, upper]
  | some e =>
    obtain ⟨c, sign, factor, ds, letter, isSign, isDigits, rfl, rfl⟩ := h
    rw [List.cons_append, List.append_assoc, exponent, if_pos letter, exponentSign_append isSign isDigits]
    dsimp only
    rw [digits1_append isDigits fun c hc => (hr c hc).1]
    rfl

/-- What follows the digits of a number in the number itself is no digit. -/
theorem exponentTexts_head {e : Option Int} {cs rest : List Char} (h : cs ∈ exponentTexts e)
    (hr : ∀ c ∈ rest.head?, digit? c = none ∧ c ≠ '.') :
    ∀ c ∈ (cs ++ rest).head?, digit? c = none ∧ c ≠ '.' := by
  cases e with
  | none =>
    obtain rfl := Language.mem_one cs |>.mp h
    exact hr
  | some e =>
    obtain ⟨c, sign, factor, ds, letter, -, -, -, rfl⟩ := h
    intro d hd
    cases hd
    rcases letter with rfl | rfl <;> decide

theorem fractionTexts_head {ds : List Nat} {cs rest : List Char} (h : cs ∈ fractionTexts ds)
    (hr : ∀ c ∈ rest.head?, digit? c = none) : ∀ c ∈ (cs ++ rest).head?, digit? c = none := by
  cases ds with
  | nil =>
    obtain rfl := Language.mem_one cs |>.mp h
    exact hr
  | cons d ds =>
    obtain ⟨-, rfl⟩ := h
    intro c hc
    cases hc
    decide

/-- A number without its sign starts with a digit. -/
theorem wholeTexts_head {n : Nat} {cs : List Char} (h : cs ∈ wholeTexts n) (rest : List Char) :
    ∃ c tail, cs ++ rest = c :: tail ∧ c.isDigit = true := by
  obtain ⟨ds, isDigits, -, -, rfl⟩ := h
  obtain ⟨d, small, head⟩ := isDigits.head rest
  obtain ⟨tail, same⟩ := List.head?_eq_some_iff.mp head
  have isDigit : ∀ d < 10, (Nat.digitChar d).isDigit = true := by decide
  exact ⟨_, tail, same, isDigit d small⟩

/-- The parts of a number are read one after the other. -/
theorem parts_append (negative : Bool) {w : Nat} {f : List Nat} {e : Option Int}
    {wholeText fractionText exponentText rest : List Char} (hw : wholeText ∈ wholeTexts w)
    (hf : fractionText ∈ fractionTexts f) (he : exponentText ∈ exponentTexts e) (hr : Ends rest) :
    (do
      let (whole, cs) ← whole (wholeText ++ (fractionText ++ (exponentText ++ rest)))
      let (fraction, cs) ← fraction cs
      let (exponent, cs) ← exponent cs
      return (⟨negative, whole, fraction, exponent⟩, cs) : Except Break (Numeral × List Char)) =
        .ok (⟨negative, w, f, e⟩, rest) := by
  have ends := hr.head
  have afterFraction := exponentTexts_head he fun c hc => ⟨(ends c hc).1, (ends c hc).2.1⟩
  have afterWhole := fractionTexts_head hf fun c hc => (afterFraction c hc).1
  simp only [bind, Except.bind, whole_append hw afterWhole, fraction_append hf afterFraction,
    exponent_append he fun c hc => ⟨(ends c hc).1, (ends c hc).2.2⟩]
  rfl

/-- **A number is read to its end.** It starts with a minus sign or a digit. -/
theorem numeral_append {n : Numeral} {cs rest : List Char} (h : cs ∈ n.texts) (hr : Ends rest) :
    numeral (cs ++ rest) = .ok (n, rest) ∧ ∃ c tail, cs = c :: tail ∧ (c = '-' ∨ c.isDigit = true) := by
  obtain ⟨negative, w, f, e⟩ := n
  obtain ⟨sign, hsign, _, magnitude, rfl⟩ := Language.mem_mul.mp h
  obtain ⟨wholeText, hw, _, tail, rfl⟩ := Language.mem_mul.mp magnitude
  obtain ⟨fractionText, hf, exponentText, he, rfl⟩ := Language.mem_mul.mp tail
  have parts := parts_append negative hw hf he hr
  cases negative with
  | true =>
    obtain rfl : sign = ['-'] := hsign
    simp only [List.append_assoc]
    exact ⟨parts, '-', _, rfl, .inl rfl⟩
  | false =>
    obtain rfl := Language.mem_one sign |>.mp hsign
    obtain ⟨c, tail, same, isDigit⟩ := wholeTexts_head hw (fractionText ++ exponentText)
    refine ⟨?_, c, tail, same, .inr isDigit⟩
    obtain ⟨d, tail, start, digit⟩ := wholeTexts_head hw (fractionText ++ (exponentText ++ rest))
    rw [List.nil_append, List.append_assoc, List.append_assoc]
    rw [start] at parts ⊢
    rw [numeral]
    · exact parts
    · intro rest dash
      cases (List.cons.inj dash).1
      exact absurd digit (by decide)

/-! ### Literals -/

theorem hex4_append {a b c d : Char} {w x y z : Nat} (ha : hexDigit? a = some w) (hb : hexDigit? b = some x)
    (hc : hexDigit? c = some y) (hd : hexDigit? d = some z) (rest : List Char) :
    hex4 (a :: b :: c :: d :: rest) = .ok (((w * 16 + x) * 16 + y) * 16 + z, rest) := by
  have enough : ¬ 0 + a.utf8Size + b.utf8Size + c.utf8Size + d.utf8Size < 4 := by
    have := a.utf8Size_pos
    have := b.utf8Size_pos
    have := c.utf8Size_pos
    have := d.utf8Size_pos
    omega
  rw [hex4]
  show (if 0 + a.utf8Size + b.utf8Size + c.utf8Size + d.utf8Size < 4 then _ else _) = _
  rw [if_neg enough, ha, hb, hc, hd]

theorem codePoint_append {n : Nat} {part : List Char} (h : Spells n part) (rest : List Char) :
    codePoint (part ++ rest) = .ok (some n, rest) := by
  cases h with
  | plain quote backslash control =>
    rw [List.singleton_append, codePoint, if_neg (by omega)]
    · exact fun h => quote h
    · exact fun h => backslash h
  | @letter c stands h =>
    rw [List.cons_append, List.singleton_append, codePoint, h]
    rintro rfl
    exact nomatch h
  | hex ha hb hc hd =>
    show (hex4 _).map _ = _
    exact congrArg _ (hex4_append ha hb hc hd rest)

theorem literal_append {literal : Literal} {parts : List (List Char)} (h : List.Forall₂ Spells literal parts)
    (read : Literal) {fuel : Nat} (rest : List Char) (hf : literal.length < fuel) :
    Json.literal read fuel (parts.flatten ++ '"' :: rest) = .ok (read.reverse ++ literal, rest) := by
  induction h generalizing read fuel with
  | nil =>
    obtain ⟨fuel, rfl⟩ := Nat.exists_eq_succ_of_ne_zero (Nat.ne_of_gt hf)
    simp [Json.literal, codePoint]
  | @cons n part literal parts spells _ ih =>
    obtain ⟨fuel, rfl⟩ := Nat.exists_eq_succ_of_ne_zero (Nat.ne_of_gt (Nat.zero_lt_of_lt hf))
    rw [List.flatten_cons, List.append_assoc, Json.literal, codePoint_append spells]
    show Json.literal (n :: read) fuel (parts.flatten ++ '"' :: rest) = _
    rw [ih (n :: read) (by simpa using hf)]
    simp

theorem Spells.length_pos {n : Nat} {part : List Char} (h : Spells n part) : 0 < part.length := by
  cases h <;> simp

theorem length_le_of_spells {literal : Literal} {parts : List (List Char)}
    (h : List.Forall₂ Spells literal parts) : literal.length ≤ parts.flatten.length := by
  induction h with
  | nil => simp
  | cons spells _ ih =>
    have := spells.length_pos
    simp only [List.length_cons, List.flatten_cons, List.length_append]
    omega

/-- **A literal is read to its quote.** It starts with one. -/
theorem literalOf_append {literal : Literal} {cs : List Char} (h : cs ∈ literal.texts) :
    ∃ tail, cs = '"' :: tail ∧ ∀ rest, literalOf (tail ++ rest) = .ok (literal, rest) := by
  obtain ⟨parts, spells, rfl⟩ := h
  refine ⟨parts.flatten ++ ['"'], rfl, fun rest => ?_⟩
  rw [List.append_assoc]
  have short := length_le_of_spells spells
  have enough : literal.length < (parts.flatten ++ (['"'] ++ rest)).length + 1 := by
    rw [List.length_append]
    omega
  exact literal_append spells [] rest enough

end EntityGen.Json
