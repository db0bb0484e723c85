import EntityGen.Yaml.Scalar

/-!
What stands beside the nodes of a YAML text: anchors, tags and directives. -/
namespace EntityGen.Yaml

/-! ### Anchors -/

/-- The name of an anchor or alias, after its mark. -/
def anchorName (k : Cursor) : Option (String × Cursor) :=
  let name := k.rest.takeWhile isWord
  let next := k.advance name.length
  let ends := beforeGap next.rest ||
    next.rest.head?.any fun c =>
      c == '?' || c == ':' || c == ',' || c == ']' || c == '\x7d' || c == '%' || c == '@' || c == '\x60'
  if name.isEmpty || !ends then none else some (String.ofList name, next)

/-! ### Tags -/

/-- Characters of a tag; `verbatim` ones stand between angle brackets. -/
def isTagChar (verbatim : Bool) (c : Char) : Bool :=
  isWord c || c == ';' || c == '/' || c == '?' || c == ':' || c == '@' || c == '&' || c == '=' ||
    c == '+' || c == '$' || c == '.' || c == '!' || c == '~' || c == '*' || c == '\'' || c == '(' ||
    c == ')' || c == '%' || (verbatim && (c == ',' || c == '[' || c == ']'))

/-- One escaped byte of a tag. -/
def tagByte (k : Cursor) : Option (Nat × Cursor) :=
  match k.rest with
  | '%' :: rest => (hex? 2 rest).map fun n => (n, k.advance 3)
  | _ => none

/-- How many more bytes follow the first of a character, and what that contributes. -/
def leadingByte? (n : Nat) : Option (Nat × Nat) :=
  if n < 0x80 then some (0, n)
  else if 0xC0 ≤ n ∧ n < 0xE0 then some (1, n - 0xC0)
  else if 0xE0 ≤ n ∧ n < 0xF0 then some (2, n - 0xE0)
  else if 0xF0 ≤ n ∧ n < 0xF8 then some (3, n - 0xF0)
  else none

/-- The further bytes of an escaped character. -/
def trailingBytes (n : Nat) : Nat → Cursor → Option (Nat × Cursor)
  | 0, k => some (n, k)
  | count + 1, k => do
    let (b, k) ← tagByte k
    if 0x80 ≤ b ∧ b < 0xC0 then trailingBytes (n * 64 + (b - 0x80)) count k else none

/-- A character of a tag written as escaped bytes. -/
def tagEscape (k : Cursor) : Option (Char × Cursor) := do
  let (b, k) ← tagByte k
  let (count, n) ← leadingByte? b
  let (n, k) ← trailingBytes n count k
  return (Char.ofNat n, k)

/-- The characters of a tag from here on. -/
def tagCharsFrom (verbatim : Bool) : Nat → Cursor → Option (List Char × Cursor)
  | 0, _ => none
  | fuel + 1, k =>
    match k.rest with
    | [] => some ([], k)
    | c :: _ =>
      if c == '%' then do
        let (d, k) ← tagEscape k
        let (text, k) ← tagCharsFrom verbatim fuel k
        return (d :: text, k)
      else if isTagChar verbatim c then do
        let (text, k) ← tagCharsFrom verbatim fuel (k.advance 1)
        return (c :: text, k)
      else some ([], k)

/-- The characters of a tag that starts here, which may be none. -/
def tagChars (verbatim : Bool) (k : Cursor) : Option (List Char × Cursor) :=
  tagCharsFrom verbatim (k.rest.length + 1) k

/-- At least one character of a tag. -/
def tagChars1 (verbatim : Bool) (k : Cursor) : Option (List Char × Cursor) := do
  let (text, k) ← tagChars verbatim k
  if text.isEmpty then none else return (text, k)

/-- What may be the handle of a tag: an exclamation mark, a word, and another mark if it is there. -/
def tagHandle (k : Cursor) : Option (List Char × Cursor) :=
  match k.rest with
  | '!' :: rest =>
    let name := rest.takeWhile isWord
    let k := k.advance (1 + name.length)
    if k.rest.head? == some '!' then some ('!' :: name ++ ['!'], k.advance 1)
    else some ('!' :: name, k)
  | _ => none

/-- A whole handle, which has a mark at its end. -/
def isHandle (handle : List Char) : Bool :=
  decide (1 < handle.length) && handle.getLast? == some '!'

/-- The handle, the suffix and the place after a tag between angle brackets. -/
def verbatimTag (k : Cursor) : Option (List Char × List Char × Cursor) := do
  let (suffix, k) ← tagChars1 true (k.advance 2)
  if k.rest.head? == some '>' then return ([], suffix, k.advance 1) else none

/-- The handle, the suffix and the place after any other tag. The exclamation mark alone is a suffix. -/
def shortTag (k : Cursor) : Option (List Char × List Char × Cursor) := do
  let (handle, k) ← tagHandle k
  if isHandle handle then
    let (suffix, k) ← tagChars1 false k
    return (handle, suffix, k)
  else
    let (more, k) ← tagChars false k
    let suffix := handle.drop 1 ++ more
    return if suffix.isEmpty then ([], ['!'], k) else (['!'], suffix, k)

/-- A tag that starts here: `!<verbatim>`, `!handle!suffix`, `!suffix` or `!`. -/
def tag (flow : Bool) (k : Cursor) : Option (Token × Cursor) := do
  let (handle, suffix, k) ←
    if k.rest.take 2 == ['!', '<'] then verbatimTag k else shortTag k
  if beforeGap k.rest || (flow && k.rest.head? == some ',') then
    return (.tag (String.ofList handle) (String.ofList suffix), k)
  else none

/-! ### Directives -/

/-- A number of a version, of at most nine digits. -/
def versionNumber (k : Cursor) : Option (Nat × Cursor) :=
  let ds := k.rest.takeWhile Char.isDigit
  if ds.isEmpty || decide (9 < ds.length) then none
  else some (ds.foldl (fun n c => n * 10 + (c.toNat - '0'.toNat)) 0, k.advance ds.length)

def versionDirective (k : Cursor) : Option (Token × Cursor) := do
  let (major, k) ← versionNumber (k.skipWhile isSpace)
  if k.rest.head? != some '.' then none
  let (minor, k) ← versionNumber (k.advance 1)
  return (.version major minor, k)

def tagDirective (k : Cursor) : Option (Token × Cursor) := do
  let (handle, k) ← tagHandle (k.skipWhile isSpace)
  if !(handle == ['!'] || isHandle handle) then none
  if !k.rest.head?.any isSpace then none
  let (expansion, k) ← tagChars1 true (k.skipWhile isSpace)
  if !beforeGap k.rest then none
  return (.tagPrefix (String.ofList handle) (String.ofList expansion), k)

/-- A directive that starts here with its percent sign, up to the end of its line. There are two. -/
def directive (k : Cursor) : Option (Token × Cursor) := do
  let k := k.advance 1
  let name := k.rest.takeWhile isWord
  let k := k.advance name.length
  if !beforeGap k.rest then none
  let (token, k) ←
    if name == ['Y', 'A', 'M', 'L'] then versionDirective k
    else if name == ['T', 'A', 'G'] then tagDirective k
    else none
  let k := k.skipWhile isSpace
  let k := if k.rest.head? == some '#' then k.skipLine else k
  if beforeBreak k.rest then return (token, k.skipBreak) else none

end EntityGen.Yaml
