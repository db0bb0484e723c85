import EntityGen.Json.Parser
import EntityGen.Text.Join

/-!
JSON trees written as text, without blanks. Characters below U+0020, the quote and the backslash are
escaped, by a letter where there is one, and so are surrogates; every other character stands for itself. -/
namespace EntityGen.Json

def hexDigit (n : Nat) : Char := Nat.digitChar n

/-- The escape of a code point below U+10000. -/
def writeEscape (n : Nat) : List Char :=
  ['\\', 'u', hexDigit (n / 4096 % 16), hexDigit (n / 256 % 16), hexDigit (n / 16 % 16),
   hexDigit (n % 16)]

/-- The letter that escapes a code point. A slash is not escaped. -/
def escapeLetter? (n : Nat) : Option Char :=
  ['"', '\\', 'b', 'f', 'n', 'r', 't'].find? fun c => (escape? c).map Char.toNat == some n

def writeCodePoint (n : Nat) : List Char :=
  match escapeLetter? n with
  | some c => ['\\', c]
  | none =>
    if n < 0x20 ∨ Literal.isHigh n ∨ Literal.isLow n then writeEscape n else [Char.ofNat n]

def writeLiteral (literal : Literal) : List Char :=
  '"' :: literal.flatMap writeCodePoint ++ ['"']

def writeNumeral (n : Numeral) : List Char :=
  (if n.negative then ['-'] else []) ++ Nat.toDigits 10 n.whole ++
    (if n.fraction.isEmpty then [] else '.' :: n.fraction.map Nat.digitChar) ++
    match n.exponent with
    | none => []
    | some e => 'e' :: (if e < 0 then ['-'] else []) ++ Nat.toDigits 10 e.natAbs

mutual

/-- The text of a tree; a broken value has none, and what is cut short has no closing bracket. -/
def write : Json → List Char
  | null => ['n', 'u', 'l', 'l']
  | bool true => ['t', 'r', 'u', 'e']
  | bool false => ['f', 'a', 'l', 's', 'e']
  | number n => writeNumeral n
  | string literal => writeLiteral literal
  | array items ending => '[' :: writeItems items ++ (if ending.isNone then [']'] else [])
  | object members ending =>
    '\x7b' :: writeMembers members ++ (if ending.isNone then ['\x7d'] else [])
  | broken _ => []

/-- Items with commas between them. -/
def writeItems : List Json → List Char
  | [] => []
  | [item] => item.write
  | item :: next :: rest => item.write ++ ',' :: writeItems (next :: rest)

/-- Members with commas between them. -/
def writeMembers : List (Literal × Json) → List Char
  | [] => []
  | [(key, value)] => writeLiteral key ++ ':' :: value.write
  | (key, value) :: next :: rest =>
    writeLiteral key ++ ':' :: value.write ++ ',' :: writeMembers (next :: rest)

end

def render (j : Json) : String := String.ofList j.write

end EntityGen.Json
