import EntityGen.Toml.Text

/-!
TOML text read into a tree; nothing if it is not TOML. Values nest less than eighty deep, and a key has
less than eighty names. -/
namespace EntityGen.Toml

/-- How many names a key may have, and how deep arrays and tables may nest in a value. -/
def depthLimit : Nat := 79

def isSpace (c : Char) : Bool := c == ' ' || c == '\t'

def skipSpace (cs : List Char) : List Char := cs.dropWhile isSpace

/-- What follows a comment, if there is one: the end of the line, unless a control character stands
before that. -/
def skipComment (cs : List Char) : List Char :=
  match cs with
  | '#' :: rest => rest.dropWhile isPlain
  | cs => cs

/-- What follows the end of a line, which may have a comment and may be the last. -/
def lineEnds? (cs : List Char) : Option (List Char) :=
  match skipComment (skipSpace cs) with
  | [] => some []
  | cs => newline? cs

/-- What follows blanks, comments and line breaks inside an array. -/
def skipGap : Nat → List Char → List Char
  | 0, cs => cs
  | fuel + 1, cs =>
    let next := skipComment (skipSpace cs)
    match newline? next with
    | some rest => skipGap fuel rest
    | none => if (skipSpace cs).head? == some '#' then cs else next

/-! ### Keys -/

def isBare (c : Char) : Bool := c.isAlphanum || c == '_' || c == '-'

/-- One name of a key: quoted on one line, or bare. -/
def name? (cs : List Char) : Option (String × List Char) :=
  match cs with
  | '"' :: rest => (line? '"' (rest.length + 1) rest).map fun (s, rest) => (String.ofList s, rest)
  | '\'' :: rest => (line? '\'' (rest.length + 1) rest).map fun (s, rest) => (String.ofList s, rest)
  | cs =>
    let name := cs.takeWhile isBare
    if name.isEmpty then none else some (String.ofList name, cs.drop name.length)

/-- Names with dots between them, and blanks around each. -/
def names? : Nat → List Char → Option (List String × List Char)
  | 0, _ => none
  | fuel + 1, cs => do
    let (name, rest) ← name? (skipSpace cs)
    match skipSpace rest with
    | '.' :: rest =>
      let (names, rest) ← names? fuel rest
      return (name :: names, rest)
    | rest => return ([name], rest)

/-- The last of some names, and those before it. -/
def splitLast? (names : List String) : Option (List String × String) :=
  names.getLast?.map fun last => (names.dropLast, last)

/-- A key: the names before its last, the last, and what follows. -/
def key? (cs : List Char) : Option (List String × String × List Char) := do
  let (names, rest) ← names? (cs.length + 1) cs
  if depthLimit < names.length then none
  let (path, last) ← splitLast? names
  return (path, last, rest)

/-! ### Values -/

/-- What follows a word. -/
def word? (w : List Char) (cs : List Char) : Option (List Char) :=
  if w.isPrefixOf cs then some (cs.drop w.length) else none

/-- A value that holds no others. -/
def scalar? (cs : List Char) : Option (Toml × List Char) :=
  match cs with
  | [] => none
  | c :: _ =>
    if c == '"' || c == '\'' then
      (text? c cs).map fun (s, rest) => (.text (String.ofList s), rest)
    else if c == '+' || c == '-' || c.isDigit then number? cs
    else if c == 't' then (word? ['t', 'r', 'u', 'e'] cs).map (.flag true, ·)
    else if c == 'f' then (word? ['f', 'a', 'l', 's', 'e'] cs).map (.flag false, ·)
    else if c == 'i' then (word? ['i', 'n', 'f'] cs).map (.float, ·)
    else if c == 'n' then (word? ['n', 'a', 'n'] cs).map (.float, ·)
    else none

mutual

/-- A value that starts here. The first argument is how deep arrays and tables may nest in each other
from here on. -/
def value? : Nat → List Char → Option (Toml × List Char)
  | 0, cs => scalar? cs
  | depth + 1, cs =>
    match cs with
    | '[' :: rest => do
      let (items, rest) ← items? depth (rest.length + 1) rest
      return (.array items, rest)
    | '\x7b' :: rest => do
      let (entries, rest) ← entries? depth (rest.length + 1) rest
      return (.table .sealed entries, rest)
    | cs => scalar? cs
termination_by depth => (depth, 0)

/-- The items of an array after its bracket, with commas between them and one allowed after the
last. -/
def items? (depth : Nat) : Nat → List Char → Option (List Toml × List Char)
  | 0, _ => none
  | fuel + 1, cs =>
    let cs := skipGap (cs.length + 1) cs
    match cs with
    | ']' :: rest => some ([], rest)
    | cs => do
      let (item, rest) ← value? depth cs
      match skipGap (rest.length + 1) rest with
      | ',' :: rest =>
        let (items, rest) ← items? depth fuel rest
        return (item :: items, rest)
      | ']' :: rest => return ([item], rest)
      | _ => none
termination_by fuel => (depth, fuel + 1)

/-- The entries of a table after its brace, on one line, with commas between them. -/
def entries? (depth : Nat) (fuel : Nat) (cs : List Char) :
    Option (List (String × Toml) × List Char) :=
  match skipSpace cs with
  | '\x7d' :: rest => some ([], rest)
  | cs => do
    let (t, rest) ← moreEntries? depth (new .declared) fuel cs
    match t with
    | .table _ entries => return (entries, rest)
    | _ => none
termination_by (depth, fuel + 1)

/-- At least one entry, put into a table under way. -/
def moreEntries? (depth : Nat) (under : Toml) : Nat → List Char → Option (Toml × List Char)
  | 0, _ => none
  | fuel + 1, cs => do
    let (path, key, rest) ← key? cs
    let rest ← expect? '=' rest
    let (value, rest) ← value? depth (skipSpace rest)
    let under ← put path key value under
    match skipSpace rest with
    | ',' :: rest => moreEntries? depth under fuel rest
    | '\x7d' :: rest => return (under, rest)
    | _ => none
termination_by fuel => (depth, fuel)

end

/-! ### Documents -/

/-- A key and its value up to the end of the line. -/
def keyValue? (d : Draft) (cs : List Char) : Option (Draft × List Char) := do
  let (path, key, rest) ← key? cs
  let rest ← expect? '=' rest
  let (value, rest) ← value? depthLimit (skipSpace rest)
  let rest ← lineEnds? rest
  let d ← d.put? path key value
  return (d, rest)

/-- A header up to the end of the line. -/
def header? (d : Draft) (cs : List Char) : Option (Draft × List Char) :=
  match cs with
  | '[' :: '[' :: rest => do
    let (path, key, rest) ← key? rest
    let rest ← expect? ']' rest
    let rest ← expect? ']' rest
    let rest ← lineEnds? rest
    let d ← d.openOneOf? path key
    return (d, rest)
  | '[' :: rest => do
    let (path, key, rest) ← key? rest
    let rest ← expect? ']' rest
    let rest ← lineEnds? rest
    let d ← d.openTable? path key
    return (d, rest)
  | _ => none

/-- Lines up to the end of the text. -/
def lines (d : Draft) : Nat → List Char → Option Toml
  | 0, _ => none
  | fuel + 1, cs =>
    match skipSpace cs with
    | [] => d.finish?
    | c :: rest =>
      if c == '#' || c == '\n' || c == '\r' then
        match lineEnds? (c :: rest) with
        | some rest => lines d fuel rest
        | none => none
      else do
        let (d, rest) ← if c == '[' then header? d (c :: rest) else keyValue? d (c :: rest)
        lines d fuel rest

/-- A whole text. A mark of the byte order at its start is skipped. -/
def parse? (text : String) : Option Toml :=
  let cs := match text.toList with
    | '\ufeff' :: rest => rest
    | cs => cs
  lines Draft.start (cs.length + 1) cs

end EntityGen.Toml
