import EntityGen.Text.CaseTable

/-!
Letter case. A character's other case may be several characters (`ß` is `SS` in uppercase), so `upper`
and `lower` give lists. `lowercase` and `capitalize` case a whole word; a capital sigma that ends a
word becomes the final sigma. Below U+0080 all of it is core's. -/
namespace EntityGen.Text

def isLower (c : Char) : Bool :=
  if isAscii c then c.isLower else Run.within lowerRuns c.toNat

def isUpper (c : Char) : Bool :=
  if isAscii c then c.isUpper else Run.within upperRuns c.toNat

/-- The other case of a code point: the listed expansion, or else where the shifts move it. -/
def recase (expansions : List (Nat × List Nat)) (shifts : List Shift) (n : Nat) : List Char :=
  match expansions.lookup n with
  | some ns => ns.map Char.ofNat
  | none => [Char.ofNat (Shift.apply shifts n)]

def upper (c : Char) : List Char :=
  if isAscii c then [c.toUpper] else recase upperExpansions upperShifts c.toNat

def lower (c : Char) : List Char :=
  if isAscii c then [c.toLower] else recase lowerExpansions lowerShifts c.toNat

/-- A word in lowercase; `Σ` at its end is `ς`. -/
def lowercase : List Char → List Char
  | [] => []
  | [c] => if c = 'Σ' then ['ς'] else lower c
  | c :: next :: rest => lower c ++ lowercase (next :: rest)

/-- A word with its first character in uppercase and the others in lowercase. -/
def capitalize : List Char → List Char
  | [] => []
  | c :: rest => upper c ++ lowercase rest

/-! ### Below U+0080 -/

theorem upper_of_isAscii {c : Char} (h : isAscii c = true) : upper c = [c.toUpper] := by
  simp [upper, h]

theorem lower_of_isAscii {c : Char} (h : isAscii c = true) : lower c = [c.toLower] := by
  simp [lower, h]

theorem isLower_of_isAscii {c : Char} (h : isAscii c = true) : isLower c = c.isLower := by
  simp [isLower, h]

theorem isUpper_of_isAscii {c : Char} (h : isAscii c = true) : isUpper c = c.isUpper := by
  simp [isUpper, h]

/-- An ASCII word is put into lowercase character by character. -/
theorem lowercase_of_isAscii {s : List Char} (h : ∀ c ∈ s, isAscii c = true) :
    lowercase s = s.map Char.toLower := by
  induction s with
  | nil => rfl
  | cons c rest ih =>
    have hc : isAscii c = true := h c (by simp)
    have hr : ∀ d ∈ rest, isAscii d = true := fun d hd => h d (by simp [hd])
    cases rest with
    | nil =>
      have hs : c ≠ 'Σ' := by rintro rfl; exact absurd hc (by decide)
      simp [lowercase, hs, lower_of_isAscii hc]
    | cons next rest => simp [lowercase, lower_of_isAscii hc, ih hr]

/-- An ASCII word is capitalized character by character. -/
theorem capitalize_of_isAscii {c : Char} {s : List Char} (hc : isAscii c = true)
    (h : ∀ d ∈ s, isAscii d = true) : capitalize (c :: s) = c.toUpper :: s.map Char.toLower := by
  simp [capitalize, upper_of_isAscii hc, lowercase_of_isAscii h]

end EntityGen.Text
