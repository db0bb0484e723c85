import EntityGen.Text.CodePoints

/-!
White space, as the Unicode property `White_Space` has it: 25 characters. `trimStart` and `trimEnd`
take it off the ends of a text; what they leave neither starts nor ends with a blank. -/
namespace EntityGen.Text

/-- The code points of white space. -/
def blankRuns : List Run :=
  [⟨0x09, 0x0D, 1⟩, ⟨0x20, 0x20, 1⟩, ⟨0x85, 0x85, 1⟩, ⟨0xA0, 0xA0, 1⟩, ⟨0x1680, 0x1680, 1⟩,
   ⟨0x2000, 0x200A, 1⟩, ⟨0x2028, 0x2029, 1⟩, ⟨0x202F, 0x202F, 1⟩, ⟨0x205F, 0x205F, 1⟩,
   ⟨0x3000, 0x3000, 1⟩]

def isBlank (c : Char) : Bool := Run.within blankRuns c.toNat

/-- Every character that core calls whitespace is blank. -/
theorem isBlank_of_isWhitespace (c : Char) (h : c.isWhitespace = true) : isBlank c = true := by
  simp only [Char.isWhitespace, Bool.or_eq_true, decide_eq_true_eq] at h
  rcases h with ((h | h) | h) | h <;> subst h <;> decide

/-- Without its leading blanks. -/
def trimStart (s : List Char) : List Char := s.dropWhile isBlank

/-- Without its trailing blanks. -/
def trimEnd (s : List Char) : List Char := (s.reverse.dropWhile isBlank).reverse

@[simp] theorem trimEnd_nil : trimEnd [] = [] := rfl

/-- A text that ends in a character that is not blank is left as it is. -/
theorem trimEnd_append_singleton {s : List Char} {c : Char} (h : isBlank c = false) :
    trimEnd (s ++ [c]) = s ++ [c] := by
  simp [trimEnd, h]

/-- Trailing blanks go. -/
theorem trimEnd_append_blank {s t : List Char} (h : ∀ c ∈ t, isBlank c = true) :
    trimEnd (s ++ t) = trimEnd s := by
  have : (s ++ t).reverse.dropWhile isBlank = s.reverse.dropWhile isBlank := by
    rw [List.reverse_append]
    have ht : ∀ c ∈ t.reverse, isBlank c = true := fun c hc => h c (by simpa using hc)
    generalize t.reverse = u at ht
    induction u with
    | nil => rfl
    | cons c u ih =>
      rw [List.cons_append, List.dropWhile_cons_of_pos (ht c (by simp))]
      exact ih fun d hd => ht d (by simp [hd])
  rw [trimEnd, this, trimEnd]

end EntityGen.Text
