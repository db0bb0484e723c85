/-!
Texts as a JSON document gives them. An escape `\uXXXX` may be half of a surrogate pair, so a literal is
a list of code points in which surrogates can occur; it is a text when every surrogate has its partner.
`chars?_ofChars` and `text?_ofString` say that a text is read back from its own code points. -/
namespace EntityGen.Json

/-- The code points of a text between quotes, escapes resolved and surrogates as they stand. -/
abbrev Literal := List Nat

namespace Literal

def isHigh (n : Nat) : Bool := decide (0xD800 ≤ n) && decide (n < 0xDC00)

def isLow (n : Nat) : Bool := decide (0xDC00 ≤ n) && decide (n < 0xE000)

/-- The characters, each surrogate pair as one; nothing if a surrogate is alone. -/
def chars? : Literal → Option (List Char)
  | [] => some []
  | [n] => if isHigh n || isLow n then none else some [Char.ofNat n]
  | n :: next :: rest =>
    if isHigh n then
      if isLow next then
        (chars? rest).map (Char.ofNat (0x10000 + (n - 0xD800) * 0x400 + (next - 0xDC00)) :: ·)
      else none
    else if isLow n then none
    else (chars? (next :: rest)).map (Char.ofNat n :: ·)

def text? (literal : Literal) : Option String := literal.chars?.map String.ofList

/-- Whether the literal is not a text however it goes on. A high surrogate at its end may still find
its partner. -/
def isLost (literal : Literal) : Bool :=
  match literal.getLast? with
  | some n => (chars? (if isHigh n then literal.dropLast else literal)).isNone
  | none => false

def ofChars (s : List Char) : Literal := s.map Char.toNat

def ofString (s : String) : Literal := ofChars s.toList

theorem isHigh_toNat (c : Char) : isHigh c.toNat = false := by
  have := c.valid
  simp only [UInt32.isValidChar, Nat.isValidChar] at this
  simp only [isHigh, Bool.and_eq_false_iff, decide_eq_false_iff_not, Char.toNat]
  omega

theorem isLow_toNat (c : Char) : isLow c.toNat = false := by
  have := c.valid
  simp only [UInt32.isValidChar, Nat.isValidChar] at this
  simp only [isLow, Bool.and_eq_false_iff, decide_eq_false_iff_not, Char.toNat]
  omega

theorem chars?_ofChars (s : List Char) : chars? (ofChars s) = some s := by
  induction s with
  | nil => rfl
  | cons c rest ih =>
    cases rest with
    | nil => simp [ofChars, chars?, isHigh_toNat, isLow_toNat]
    | cons next rest =>
      simp only [ofChars, List.map_cons] at ih ⊢
      simp [chars?, isHigh_toNat, isLow_toNat, ih]

@[simp] theorem text?_ofString (s : String) : text? (ofString s) = some s := by
  simp [text?, ofString, chars?_ofChars]

end Literal

end EntityGen.Json
