import EntityGen.Toml.Number

/-!
Texts of TOML: between single quotes as they stand, between double quotes with escapes, and either on
several lines between three quotes. -/
namespace EntityGen.Toml

/-- Characters that stand for themselves in a text or a comment: all but control characters, of which
the tab is none here. -/
def isPlain (c : Char) : Bool := c == '\t' || (0x20 ≤ c.toNat && c.toNat != 0x7F)

/-- What follows a line break. -/
def newline? (cs : List Char) : Option (List Char) :=
  match cs with
  | '\n' :: rest => some rest
  | '\r' :: '\n' :: rest => some rest
  | _ => none

/-- What a number of so many hexadecimal digits stands for. -/
def codePoint? (count : Nat) (cs : List Char) : Option (Char × List Char) := do
  let ds ← (cs.take count).mapM (digit? 16)
  if ds.length != count then none
  let n := ofDigits 16 ds
  if h : n.isValidChar then return (Char.ofNatAux n h, cs.drop count) else none

/-- The character that an escape stands for. -/
def escape? (cs : List Char) : Option (Char × List Char) :=
  match cs with
  | 'b' :: rest => some ('\x08', rest)
  | 't' :: rest => some ('\t', rest)
  | 'n' :: rest => some ('\n', rest)
  | 'f' :: rest => some ('\x0c', rest)
  | 'r' :: rest => some ('\r', rest)
  | '"' :: rest => some ('"', rest)
  | '\\' :: rest => some ('\\', rest)
  | 'u' :: rest => codePoint? 4 rest
  | 'U' :: rest => codePoint? 8 rest
  | _ => none

/-- A text on one line after its opening quote. -/
def line? (quote : Char) : Nat → List Char → Option (List Char × List Char)
  | 0, _ => none
  | fuel + 1, cs =>
    let after (c : Char) (rest : List Char) : Option (List Char × List Char) :=
      (line? quote fuel rest).map fun (s, rest) => (c :: s, rest)
    match cs with
    | [] => none
    | c :: rest =>
      if c == quote then some ([], rest)
      else if quote == '"' && c == '\\' then
        match escape? rest with
        | some (d, rest) => after d rest
        | none => none
      else if isPlain c then after c rest
      else none

/-- What follows spaces and line breaks after an escaped end of a line. -/
def skipLines (cs : List Char) : List Char :=
  match cs with
  | [] => []
  | ' ' :: rest => skipLines rest
  | '\t' :: rest => skipLines rest
  | '\n' :: rest => skipLines rest
  | '\r' :: '\n' :: rest => skipLines rest
  | cs => cs

/-- What follows a backslash that ends a line, and all blank after it. -/
def lineEnd? (cs : List Char) : Option (List Char) :=
  (newline? (cs.dropWhile fun c => c == ' ' || c == '\t')).map skipLines

/-- A text on several lines after its opening quotes. Of quotes in a row, three end it; up to two before
them belong to it. -/
def lines? (quote : Char) : Nat → List Char → Option (List Char × List Char)
  | 0, _ => none
  | fuel + 1, cs =>
    let after (s : List Char) (rest : List Char) : Option (List Char × List Char) :=
      (lines? quote fuel rest).map fun (more, rest) => (s ++ more, rest)
    match cs with
    | [] => none
    | c :: rest =>
      if c == quote then
        let quotes := cs.takeWhile (· == quote)
        if quotes.length < 3 then after quotes (cs.drop quotes.length)
        else
          let kept := min 2 (quotes.length - 3)
          some (List.replicate kept quote, cs.drop (kept + 3))
      else if quote == '"' && c == '\\' then
        match escape? rest with
        | some (d, rest) => after [d] rest
        | none =>
          match lineEnd? rest with
          | some rest => after [] rest
          | none => none
      else
        match newline? cs with
        | some rest => after ['\n'] rest
        | none => if isPlain c then after [c] rest else none

/-- A text that starts here with its quotes. The first line break after three quotes is dropped. -/
def text? (quote : Char) (cs : List Char) : Option (List Char × List Char) :=
  if cs.take 3 == [quote, quote, quote] then
    let rest := cs.drop 3
    let rest := (newline? rest).getD rest
    lines? quote (rest.length + 1) rest
  else
    let rest := cs.drop 1
    line? quote (rest.length + 1) rest

end EntityGen.Toml
