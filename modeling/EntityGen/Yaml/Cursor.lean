/-!
Places in a YAML text. Indentation is part of the grammar, so a place knows its line and column, and a
line break is read as one character however it is written. -/
namespace EntityGen.Yaml

/-! ### Characters -/

/-- Characters that a YAML text may hold. -/
def isPrintable (c : Char) : Bool :=
  let n := c.toNat
  n == 0x09 || n == 0x0A || n == 0x0D || (0x20 ≤ n && n ≤ 0x7E) || n == 0x85 ||
    (0xA0 ≤ n && n ≤ 0xFFFD) || 0x10000 ≤ n

/-- Line feed, carriage return, next line, line separator and paragraph separator. -/
def isBreak (c : Char) : Bool :=
  c == '\n' || c == '\r' || c == '\x85' || c == '\u2028' || c == '\u2029'

def isSpace (c : Char) : Bool := c == ' ' || c == '\t'

/-- A space, a tab or a line break. -/
def isGap (c : Char) : Bool := isSpace c || isBreak c

/-- The next character, if there is one, is a space, a tab or a line break. -/
def beforeGap (cs : List Char) : Bool :=
  match cs with
  | [] => true
  | c :: _ => isGap c

/-- The line ends here, or the text does. -/
def beforeBreak (cs : List Char) : Bool :=
  match cs with
  | [] => true
  | c :: _ => isBreak c

/-- Letters, digits, `_` and `-`. -/
def isWord (c : Char) : Bool := c.isAlphanum || c == '_' || c == '-'

/-- The brackets, braces and comma of flow collections. -/
def isFlowMark (c : Char) : Bool := c == ',' || c == '[' || c == ']' || c == '\x7b' || c == '\x7d'

/-! ### Places -/

structure Cursor where
  /-- What is left of the text. -/
  rest : List Char
  /-- Characters before this place. -/
  index : Nat
  line : Nat
  column : Nat
  deriving DecidableEq, Repr

namespace Cursor

def start (text : List Char) : Cursor := ⟨text, 0, 0, 0⟩

/-- Past so many characters of the same line. -/
def advance (k : Cursor) (n : Nat) : Cursor :=
  { k with rest := k.rest.drop n, index := k.index + n, column := k.column + n }

/-- Past the characters of this line that `p` holds of. -/
def skipWhile (p : Char → Bool) (k : Cursor) : Cursor :=
  k.advance (k.rest.takeWhile p).length

/-- To the end of the line. -/
def skipLine (k : Cursor) : Cursor := k.skipWhile (!isBreak ·)

/-- A line break and the place after it. Carriage return, line feed and next line are all read as a
line feed. -/
def readBreak? (k : Cursor) : Option (Char × Cursor) :=
  match k.rest with
  | '\r' :: '\n' :: rest => some ('\n', ⟨rest, k.index + 2, k.line + 1, 0⟩)
  | c :: rest =>
    if isBreak c then
      let read := if c == '\u2028' || c == '\u2029' then c else '\n'
      some (read, ⟨rest, k.index + 1, k.line + 1, 0⟩)
    else none
  | [] => none

/-- Past a line break if there is one. -/
def skipBreak (k : Cursor) : Cursor :=
  match k.readBreak? with
  | some (_, next) => next
  | none => k

/-- Three equal characters at the start of a line, with a gap after them. -/
def atMarker (c : Char) (k : Cursor) : Bool :=
  k.column == 0 && k.rest.take 3 == [c, c, c] && beforeGap (k.rest.drop 3)

/-- The start or end of a document stands here. -/
def atDocumentMark (k : Cursor) : Bool := k.atMarker '-' || k.atMarker '.'

theorem length_advance_le (k : Cursor) (n : Nat) : (k.advance n).rest.length ≤ k.rest.length := by
  simp [advance]

end Cursor

end EntityGen.Yaml
