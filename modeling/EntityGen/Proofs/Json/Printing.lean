import EntityGen.Json.Printer
import EntityGen.Proofs.Json.Grammar

/-!
Trees are written in the grammar: what is printed for a value is one of its texts (`Written`). This is so of texts,
natural numbers, flags and null, and of the arrays and objects that are put together from written values. -/
namespace EntityGen.Json

/-- A value is printed as one of its texts. -/
def Written (j : Json) : Prop := j.write ∈ j.texts

/-! ### Literals -/

theorem hexDigit?_hexDigit {d : Nat} (h : d < 16) : hexDigit? (hexDigit d) = some d := by
  revert d
  decide

theorem spells_writeEscape {n : Nat} (h : n < 0x10000) : Spells n (writeEscape n) := by
  have digits : (((n / 4096 % 16) * 16 + n / 256 % 16) * 16 + n / 16 % 16) * 16 + n % 16 = n := by omega
  have spelled := Spells.hex (hexDigit?_hexDigit (Nat.mod_lt (n / 4096) (by decide)))
    (hexDigit?_hexDigit (Nat.mod_lt (n / 256) (by decide))) (hexDigit?_hexDigit (Nat.mod_lt (n / 16) (by decide)))
    (hexDigit?_hexDigit (Nat.mod_lt n (by decide)))
  rwa [digits] at spelled

/-- A letter escapes the character that it stands for. -/
theorem spells_of_escapeLetter? {n : Nat} {c : Char} (h : escapeLetter? n = some c) : Spells n ['\\', c] := by
  have found := List.find?_some h
  obtain ⟨stands, escaped, rfl⟩ := Option.map_eq_some_iff.mp (beq_iff_eq.mp found)
  exact .letter escaped

/-- A code point is spelled as it is printed, a surrogate by an escape. -/
theorem spells_writeCodePoint {n : Nat} (h : n < 0x110000) : Spells n (writeCodePoint n) := by
  unfold writeCodePoint
  cases letter : escapeLetter? n with
  | some c => exact spells_of_escapeLetter? letter
  | none =>
    by_cases escaped : n < 0x20 ∨ Literal.isHigh n ∨ Literal.isLow n
    · simp only [escaped, if_true]
      apply spells_writeEscape
      simp only [Literal.isHigh, Literal.isLow, Bool.and_eq_true, decide_eq_true_eq] at escaped
      omega
    · simp only [escaped, if_false]
      have valid : n.isValidChar := by
        simp only [Literal.isHigh, Literal.isLow, Bool.and_eq_true, decide_eq_true_eq] at escaped
        simp only [Nat.isValidChar]
        omega
      obtain ⟨c, rfl⟩ : ∃ c : Char, c.toNat = n := ⟨Char.ofNatAux n valid, rfl⟩
      rw [Char.ofNat_toNat]
      refine .plain ?_ ?_ (Nat.not_lt.mp fun control => escaped (.inl control))
      · rintro rfl
        exact absurd letter (by decide)
      · rintro rfl
        exact absurd letter (by decide)

theorem writeLiteral_mem_texts {literal : Literal} (h : ∀ n ∈ literal, n < 0x110000) :
    writeLiteral literal ∈ literal.texts := by
  refine ⟨literal.map writeCodePoint, ?_, ?_⟩
  · rw [List.forall₂_map_right_iff, List.forall₂_same]
    exact fun n hn => spells_writeCodePoint (h n hn)
  · rw [writeLiteral, List.flatMap_def, List.cons_append]

theorem lt_of_mem_ofString {s : String} : ∀ n ∈ Literal.ofString s, n < 0x110000 := by
  rw [Literal.ofString, Literal.ofChars, List.forall_mem_map]
  intro c _
  have valid := c.valid
  simp only [UInt32.isValidChar, Nat.isValidChar] at valid
  simp only [Char.toNat]
  omega

/-! ### Numbers -/

theorem ofDigits_append_singleton (ds : List Nat) (d : Nat) : ofDigits (ds ++ [d]) = ofDigits ds * 10 + d := by
  simp [ofDigits]

/-- The decimal digits of a number are what it is written with. -/
theorem toDigits_mem_wholeTexts (n : Nat) : Nat.toDigits 10 n ∈ wholeTexts n := by
  induction n using Nat.strongRecOn with
  | ind n ih =>
    by_cases small : n < 10
    · refine ⟨[n], ⟨List.cons_ne_nil _ _, by simpa using small⟩, ?_, by simp [ofDigits], ?_⟩
      · intro zero
        rw [Option.some.inj zero]
      · rw [Nat.toDigits_of_lt_base small]
        rfl
    · obtain ⟨ds, isDigits, leading, value, shown⟩ := ih (n / 10) (by omega)
      refine ⟨ds ++ [n % 10], ⟨by simp, ?_⟩, ?_, ?_, ?_⟩
      · intro d hd
        rcases List.mem_append.mp hd with hd | hd
        · exact isDigits.2 d hd
        · rw [List.mem_singleton.mp hd]
          exact Nat.mod_lt n (by decide)
      · -- Digits that start with zero are the number zero, which is not a tenth of `n`.
        intro zero
        rw [List.head?_append_of_ne_nil _ isDigits.1] at zero
        rw [leading zero] at value
        have : n / 10 = 0 := value.symm
        omega
      · rw [ofDigits_append_singleton, value]
        omega
      · rw [List.map_append, shown, Nat.toDigits_of_base_le (by decide) (Nat.not_lt.mp small)]
        rfl

/-! ### Values -/

theorem written_null : Written null := by
  rw [Written, texts]
  rfl

theorem written_bool (b : Bool) : Written (.bool b) := by
  cases b <;> rw [Written, texts] <;> rfl

theorem written_ofString (s : String) : Written (.ofString s) := by
  rw [Written, ofString, texts, write]
  exact writeLiteral_mem_texts lt_of_mem_ofString

theorem written_ofNat (n : Nat) : Written (.ofNat n) := by
  rw [Written, ofNat, texts, write]
  refine Language.mem_mul.mpr ⟨[], Language.nil_mem_one, Nat.toDigits 10 n, ?_, ?_⟩
  · refine Language.mem_mul.mpr ⟨_, toDigits_mem_wholeTexts n, [], ?_, List.append_nil _⟩
    exact Language.mem_mul.mpr ⟨[], Language.nil_mem_one, [], Language.nil_mem_one, rfl⟩
  · simp [writeNumeral, Numeral.ofNat]

theorem written_ofOption {α : Type} {write : α → Json} (h : ∀ a, Written (write a)) :
    ∀ o, Written (.ofOption write o)
  | none => written_null
  | some a => h a

theorem writeItems_mem_itemTexts : ∀ {items : List Json}, (∀ item ∈ items, Written item) →
    writeItems items ∈ itemTexts items
  | [], _ => by
    rw [writeItems, itemTexts]
    exact nil_mem_blanks
  | [item], h => by
    rw [writeItems, itemTexts]
    exact mem_spaced_of_mem (h item (List.mem_cons_self ..))
  | item :: next :: rest, h => by
    obtain ⟨first, others⟩ := List.forall_mem_cons.mp h
    rw [writeItems, itemTexts]
    refine Language.mem_mul.mpr ⟨item.write, mem_spaced_of_mem first, _, ?_, rfl⟩
    exact mem_mark_mul.mpr ⟨_, writeItems_mem_itemTexts others, rfl⟩

theorem written_ofList {items : List Json} (h : ∀ item ∈ items, Written item) : Written (.ofList items) := by
  rw [Written, ofList, texts, write]
  exact mem_mark_mul.mpr ⟨_, mem_mul_mark.mpr ⟨_, writeItems_mem_itemTexts h, rfl⟩, rfl⟩

/-- A key, a colon and a value. -/
theorem writeMember_mem {key : Literal} {value : Json} (hk : ∀ n ∈ key, n < 0x110000) (h : Written value) :
    writeLiteral key ++ ':' :: value.write ∈ spaced key.texts * (mark ':' * spaced value.texts) := by
  refine Language.mem_mul.mpr ⟨_, mem_spaced_of_mem (writeLiteral_mem_texts hk), _, ?_, rfl⟩
  exact mem_mark_mul.mpr ⟨_, mem_spaced_of_mem h, rfl⟩

theorem writeMembers_mem_memberTexts : ∀ {members : List (Literal × Json)},
    (∀ member ∈ members, (∀ n ∈ member.1, n < 0x110000) ∧ Written member.2) →
      writeMembers members ∈ memberTexts members
  | [], _ => by
    rw [writeMembers, memberTexts]
    exact nil_mem_blanks
  | [(key, value)], h => by
    obtain ⟨hk, hv⟩ := h _ (List.mem_cons_self ..)
    rw [writeMembers, memberTexts]
    exact writeMember_mem hk hv
  | (key, value) :: next :: rest, h => by
    obtain ⟨⟨hk, hv⟩, others⟩ := List.forall_mem_cons.mp h
    rw [writeMembers, memberTexts]
    refine Language.mem_mul.mpr ⟨_, writeMember_mem hk hv, _, ?_, rfl⟩
    exact mem_mark_mul.mpr ⟨_, writeMembers_mem_memberTexts others, rfl⟩

theorem written_object {members : List (Literal × Json)}
    (h : ∀ member ∈ members, (∀ n ∈ member.1, n < 0x110000) ∧ Written member.2) :
    Written (.object members none) := by
  rw [Written, texts, write]
  exact mem_mark_mul.mpr ⟨_, mem_mul_mark.mpr ⟨_, writeMembers_mem_memberTexts h, rfl⟩, rfl⟩

theorem written_ofMembers {members : List (String × Json)} (h : ∀ p ∈ members, Written p.2) :
    Written (.ofMembers members) :=
  written_object (List.forall_mem_map.mpr fun p hp => ⟨lt_of_mem_ofString, h p hp⟩)

/-- What is printed for a value is a document of it. -/
theorem Written.mem_documents {j : Json} (h : Written j) : (render j).toList ∈ documents j := by
  rw [render, String.toList_ofList]
  exact mem_spaced_of_mem h

end EntityGen.Json
