import EntityGen.Json.Basic

/-!
JSON text read into a tree. Every text has a tree: one that is not JSON has the break in it where it
stops being JSON, and nothing of the text after that. Functions that read a part give that part and the
text that is left, or no text once a break has been met. -/
namespace EntityGen.Json

/-- What is left of the text; nothing after a break. -/
abbrev Rest := Option (List Char)

/-- Blanks of JSON: space, tab, line feed and carriage return. -/
def isBlank (c : Char) : Bool := c == ' ' || c == '\t' || c == '\n' || c == '\r'

def skipBlank (cs : List Char) : List Char := cs.dropWhile isBlank

def digit? (c : Char) : Option Nat := if c.isDigit then some (c.toNat - '0'.toNat) else none

/-- The digits at the start of a text. -/
def digits : List Char → List Nat × List Char
  | [] => ([], [])
  | c :: rest =>
    match digit? c with
    | some d =>
      let (ds, tail) := digits rest
      (d :: ds, tail)
    | none => ([], c :: rest)

def ofDigits (ds : List Nat) : Nat := ds.foldl (fun n d => n * 10 + d) 0

/-- At least one digit; a text that ends instead is cut inside a number. -/
def digits1 (cs : List Char) : Except Break (List Nat × List Char) :=
  match digits cs with
  | ([], []) => .error .cutNumber
  | ([], _ :: _) => .error .malformed
  | found => .ok found

/-- The digits before the point. Only the number zero starts with `0`. -/
def whole (cs : List Char) : Except Break (Nat × List Char) := do
  let (ds, rest) ← digits1 cs
  match ds with
  | 0 :: _ :: _ => throw .malformed
  | ds => return (ofDigits ds, rest)

def fraction (cs : List Char) : Except Break (List Nat × List Char) :=
  match cs with
  | '.' :: rest => digits1 rest
  | cs => .ok ([], cs)

/-- The sign of an exponent, `-1` for minus. -/
def exponentSign : List Char → Int × List Char
  | '+' :: rest => (1, rest)
  | '-' :: rest => (-1, rest)
  | cs => (1, cs)

def exponent (cs : List Char) : Except Break (Option Int × List Char) :=
  match cs with
  | c :: rest =>
    if c = 'e' ∨ c = 'E' then do
      let (sign, rest) := exponentSign rest
      let (ds, rest) ← digits1 rest
      return (some (sign * ofDigits ds), rest)
    else .ok (none, cs)
  | [] => .ok (none, cs)

/-- A numeral, from its first digit or minus sign. -/
def numeral (cs : List Char) : Except Break (Numeral × List Char) := do
  let (negative, cs) := match cs with
    | '-' :: rest => (true, rest)
    | cs => (false, cs)
  let (whole, cs) ← whole cs
  let (fraction, cs) ← fraction cs
  let (exponent, cs) ← exponent cs
  return (⟨negative, whole, fraction, exponent⟩, cs)

def hexDigit? (c : Char) : Option Nat :=
  if c.isDigit then some (c.toNat - '0'.toNat)
  else if 'a' ≤ c ∧ c ≤ 'f' then some (c.toNat - 'a'.toNat + 10)
  else if 'A' ≤ c ∧ c ≤ 'F' then some (c.toNat - 'A'.toNat + 10)
  else none

/-- The four hexadecimal digits of an escape. A text with fewer than four bytes left ends too
early. -/
def hex4 (cs : List Char) : Except Break (Nat × List Char) :=
  if (cs.take 4).foldl (fun n c => n + c.utf8Size) 0 < 4 then .error .ended
  else
    match cs with
    | a :: b :: c :: d :: rest =>
      match hexDigit? a, hexDigit? b, hexDigit? c, hexDigit? d with
      | some a, some b, some c, some d => .ok (((a * 16 + b) * 16 + c) * 16 + d, rest)
      | _, _, _, _ => .error .malformed
    | _ => .error .malformed

/-- The character that a one-letter escape stands for. -/
def escape? : Char → Option Char
  | '"' => some '"'
  | '\\' => some '\\'
  | '/' => some '/'
  | 'b' => some '\x08'
  | 'f' => some '\x0c'
  | 'n' => some '\n'
  | 'r' => some '\r'
  | 't' => some '\t'
  | _ => none

/-- One code point between quotes, or nothing at the closing quote. -/
def codePoint : List Char → Except Break (Option Nat × List Char)
  | [] => .error .ended
  | '"' :: rest => .ok (none, rest)
  | '\\' :: rest =>
    match rest with
    | [] => .error .ended
    | 'u' :: rest => (hex4 rest).map fun (n, rest) => (some n, rest)
    | c :: rest =>
      match escape? c with
      | some c => .ok (some c.toNat, rest)
      | none => .error .malformed
  | c :: rest => if c.toNat < 0x20 then .error .malformed else .ok (some c.toNat, rest)

/-- A literal after its opening quote. `read` holds the code points before, last one first. -/
def literal (read : Literal) : Nat → List Char → Except Break (Literal × List Char)
  | 0, _ => .error .ended
  | fuel + 1, cs =>
    match codePoint cs with
    | .error .ended => .error (.cutText read.reverse)
    | .error b => .error b
    | .ok (none, rest) => .ok (read.reverse, rest)
    | .ok (some n, rest) => literal (n :: read) fuel rest

/-- A literal after its opening quote. -/
def literalOf (cs : List Char) : Except Break (Literal × List Char) :=
  literal [] (cs.length + 1) cs

/-- The rest of a word such as `true`; a text that ends inside it ends too early. -/
def word : List Char → List Char → Except Break (List Char)
  | [], cs => .ok cs
  | _ :: _, [] => .error .ended
  | c :: rest, d :: cs => if c = d then word rest cs else .error .malformed

/-- A value that `x` gives together with what is left, or a break. -/
def orBroken {α : Type} (make : α → Json) (x : Except Break (α × List Char)) : Json × Rest :=
  match x with
  | .ok (a, rest) => (make a, some rest)
  | .error b => (.broken b, none)

/-- What an array or object holds, how it ends if not by its bracket, and what is left. -/
structure Held (α : Type) where
  parts : List α
  ending : Option Break
  rest : Rest

def Held.cons {α : Type} (part : α) (held : Held α) : Held α :=
  { held with parts := part :: held.parts }

/-- Nothing more is held, because of a break. -/
def Held.cut {α : Type} (b : Break) : Held α := ⟨[], some b, none⟩

/-- What follows a part: the end, a comma with more parts, or a break. A part that is broken itself is
the last. -/
def Held.after {α : Type} (close : Char) (more : List Char → Held α) (part : α) (rest : Rest) :
    Held α :=
  match rest with
  | none => ⟨[part], none, none⟩
  | some cs =>
    match skipBlank cs with
    | [] => (Held.cut .ended).cons part
    | c :: rest =>
      if c = close then ⟨[part], none, some rest⟩
      else if c = ',' then (more rest).cons part
      else (Held.cut .malformed).cons part

mutual

/-- A value, blanks before it skipped. -/
def value : Nat → List Char → Json × Rest
  | 0, _ => (.broken .ended, none)
  | fuel + 1, cs =>
    match skipBlank cs with
    | [] => (.broken .ended, none)
    | c :: rest =>
      if c = '"' then orBroken .string (literalOf rest)
      else if c = '[' then
        let held := items fuel rest
        (.array held.parts held.ending, held.rest)
      else if c = '\x7b' then
        let held := members fuel rest
        (.object held.parts held.ending, held.rest)
      else if c = 'n' then
        orBroken (fun _ => .null) ((word ['u', 'l', 'l'] rest).map ((), ·))
      else if c = 't' then
        orBroken (fun _ => .bool true) ((word ['r', 'u', 'e'] rest).map ((), ·))
      else if c = 'f' then
        orBroken (fun _ => .bool false) ((word ['a', 'l', 's', 'e'] rest).map ((), ·))
      else if c = '-' ∨ c.isDigit then orBroken .number (numeral (c :: rest))
      else (.broken .malformed, none)

/-- The items of an array, from its opening bracket on. -/
def items : Nat → List Char → Held Json
  | 0, _ => Held.cut .ended
  | fuel + 1, cs =>
    match skipBlank cs with
    | [] => Held.cut .ended
    | c :: rest =>
      if c = ']' then ⟨[], none, some rest⟩ else moreItems fuel (c :: rest)

/-- One item or more. -/
def moreItems : Nat → List Char → Held Json
  | 0, _ => Held.cut .ended
  | fuel + 1, cs =>
    let (item, rest) := value fuel cs
    Held.after ']' (moreItems fuel) item rest

/-- The members of an object, from its opening brace on. -/
def members : Nat → List Char → Held (Literal × Json)
  | 0, _ => Held.cut .ended
  | fuel + 1, cs =>
    match skipBlank cs with
    | [] => Held.cut .ended
    | c :: rest =>
      if c = '\x7d' then ⟨[], none, some rest⟩ else moreMembers fuel (c :: rest)

/-- One member or more. -/
def moreMembers : Nat → List Char → Held (Literal × Json)
  | 0, _ => Held.cut .ended
  | fuel + 1, cs =>
    match skipBlank cs with
    | [] => Held.cut .ended
    | c :: rest =>
      if c = '"' then
        match literalOf rest with
        | .error b => Held.cut b
        | .ok (key, rest) =>
          let (value, rest) := member fuel rest
          Held.after '\x7d' (moreMembers fuel) (key, value) rest
      else Held.cut .malformed

/-- The value of a member, from the colon before it on. -/
def member : Nat → List Char → Json × Rest
  | 0, _ => (.broken .ended, none)
  | fuel + 1, cs =>
    match skipBlank cs with
    | [] => (.broken .ended, none)
    | c :: rest => if c = ':' then value fuel rest else (.broken .malformed, none)

end

/-- A text read as one value. -/
structure Document where
  root : Json
  /-- Something other than blanks follows the value. -/
  trailing : Bool
  deriving Repr

/-- Any text as a document. No value of it nests deeper than it is long. -/
def parse (text : String) : Document :=
  let cs := text.toList
  let (root, rest) := value (3 * cs.length + 3) cs
  ⟨root, !(skipBlank (rest.getD [])).isEmpty⟩

end EntityGen.Json
