import EntityGen.Yaml.Property

/-!
A YAML text cut into tokens. Outside flow collections a line's indentation opens and closes blocks, and
a key is known for one only at the colon after it. So a place where a key may stand is kept in mind
(`SimpleKey`), and at the colon the tokens that open a mapping and a key are put in at that place. -/
namespace EntityGen.Yaml

/-- A place where a key may turn out to stand. -/
structure SimpleKey where
  /-- Nothing else may stand there. -/
  required : Bool
  /-- How many tokens stand before it. -/
  position : Nat
  index : Nat
  line : Nat
  column : Nat
  deriving DecidableEq, Repr

structure Scanner where
  cursor : Cursor
  /-- The tokens so far, last one first. -/
  tokens : List Token
  /-- The column of the block that is open, `-1` outside all. -/
  indent : Int
  /-- The columns of the blocks around it, innermost first. -/
  outerIndents : List Int
  key : Option SimpleKey
  /-- The keys in mind for the collections around the flow collection that is open. -/
  outerKeys : List (Option SimpleKey)
  /-- A key may stand here. -/
  keyAllowed : Bool
  deriving Repr

namespace Scanner

def start (text : List Char) : Scanner where
  cursor := Cursor.start text
  tokens := []
  indent := -1
  outerIndents := []
  key := none
  outerKeys := []
  keyAllowed := true

/-- Inside a flow collection. -/
def inFlow (s : Scanner) : Bool := !s.outerKeys.isEmpty

def emit (s : Scanner) (token : Token) : Scanner := { s with tokens := token :: s.tokens }

/-- Puts tokens in after the first `position` ones. -/
def insert (s : Scanner) (position : Nat) (tokens : List Token) : Scanner :=
  let later := s.tokens.length - position
  { s with tokens := s.tokens.take later ++ tokens.reverse ++ s.tokens.drop later }

/-! ### Keys in mind -/

/-- A key has to be on one line with its colon, and within 1024 characters of it. -/
def isStale (s : Scanner) (key : SimpleKey) : Bool :=
  decide (key.line < s.cursor.line) || decide (key.index + 1024 < s.cursor.index)

/-- The key in mind for the outermost collection, which alone can be required. -/
def outermostKey (s : Scanner) : Option SimpleKey := (s.outerKeys.getLast?).getD s.key

/-- No required key has become stale. -/
def keepsKeys (s : Scanner) : Bool :=
  match s.outermostKey with
  | some key => !(key.required && s.isStale key)
  | none => true

/-- Forgets the key in mind, which must not be required. -/
def forget? (s : Scanner) : Option Scanner :=
  match s.key with
  | some key => if key.required then none else some { s with key := none }
  | none => some s

/-- Keeps this place in mind if a key may stand here. -/
def remember? (s : Scanner) : Option Scanner :=
  if s.keyAllowed then
    s.forget?.map fun s =>
      { s with
        key := some
          { required := !s.inFlow && decide (s.indent = s.cursor.column)
            position := s.tokens.length
            index := s.cursor.index
            line := s.cursor.line
            column := s.cursor.column } }
  else some s

/-! ### Blocks -/

/-- Closes the blocks that stand right of a column. -/
def unroll (column : Int) (s : Scanner) : List Int → Scanner
  | [] =>
    if column < s.indent then { s.emit .blockEnd with indent := -1, outerIndents := [] } else s
  | outer :: rest =>
    if column < s.indent then
      unroll column { s.emit .blockEnd with indent := outer, outerIndents := rest } rest
    else s

/-- Closes the blocks that stand right of a column, outside flow collections. -/
def closeBlocks (s : Scanner) (column : Int) : Scanner :=
  if s.inFlow then s else s.unroll column s.outerIndents

/-- Whether a block at this column is a new one. -/
def opensBlock (s : Scanner) (column : Nat) : Bool := !s.inFlow && decide (s.indent < column)

/-- Opens a block at a column if it is a new one, with its first token at `position`. -/
def openBlock (s : Scanner) (column position : Nat) (token : Token) : Scanner :=
  if s.opensBlock column then
    { s.insert position [token] with
      indent := column, outerIndents := s.indent :: s.outerIndents }
  else s

/-! ### Between tokens -/

/-- One step over spaces, a comment and a line break. Tabs are spaces where no key may stand. -/
def skipGap (s : Scanner) : Nat → Scanner
  | 0 => s
  | fuel + 1 =>
    let k := s.cursor
    let k := if k.index == 0 && k.rest.head? == some '\ufeff' then k.advance 1 else k
    let k := k.skipWhile fun c => c == ' ' || ((s.inFlow || !s.keyAllowed) && c == '\t')
    let k := if k.rest.head? == some '#' then k.skipLine else k
    match k.readBreak? with
    | some (_, next) =>
      skipGap { s with cursor := next, keyAllowed := s.keyAllowed || !s.inFlow } fuel
    | none => { s with cursor := k }

/-! ### Tokens -/

/-- A token of so many characters. -/
def mark (s : Scanner) (token : Token) (count : Nat) : Scanner :=
  { s.emit token with cursor := s.cursor.advance count }

def allow (s : Scanner) (allowed : Bool) : Scanner := { s with keyAllowed := allowed }

/-- The end of the text, which closes everything. -/
def finish (s : Scanner) : Option Scanner := do
  let s ← (s.closeBlocks (-1)).forget?
  return s.emit .streamEnd

def directive (s : Scanner) : Option Scanner := do
  let s ← (s.closeBlocks (-1)).forget?
  let (token, k) ← Yaml.directive s.cursor
  return { s.emit token with cursor := k, keyAllowed := false }

def documentMark (s : Scanner) (token : Token) : Option Scanner := do
  let s ← (s.closeBlocks (-1)).forget?
  return (s.mark token 3).allow false

def openFlow (s : Scanner) (token : Token) : Option Scanner := do
  let s ← s.remember?
  return { (s.mark token 1).allow true with key := none, outerKeys := s.key :: s.outerKeys }

def closeFlow (s : Scanner) (token : Token) : Option Scanner := do
  let s ← s.forget?
  let s := match s.outerKeys with
    | [] => s
    | key :: outer => { s with key, outerKeys := outer }
  return (s.mark token 1).allow false

def flowEntry (s : Scanner) : Option Scanner := do
  let s ← s.forget?
  return (s.mark .flowEntry 1).allow true

def blockEntry (s : Scanner) : Option Scanner := do
  if !s.inFlow && !s.keyAllowed then none
  let s ← (s.openBlock s.cursor.column s.tokens.length .blockSequenceStart).forget?
  return (s.mark .blockEntry 1).allow true

def explicitKey (s : Scanner) : Option Scanner := do
  if !s.inFlow && !s.keyAllowed then none
  let s ← (s.openBlock s.cursor.column s.tokens.length .blockMappingStart).forget?
  return (s.mark .key 1).allow (!s.inFlow)

/-- A colon. It makes a key of what is in mind, or else follows a key given explicitly. -/
def valueMark (s : Scanner) : Option Scanner :=
  match s.key.filter (!s.isStale ·) with
  | some key =>
    let s := { s.insert key.position [.key] with key := none, keyAllowed := false }
    let s := s.openBlock key.column key.position .blockMappingStart
    some (s.mark .value 1)
  | none => do
    if s.key.any (·.required) then none
    if !s.inFlow && !s.keyAllowed then none
    let s := s.openBlock s.cursor.column s.tokens.length .blockMappingStart
    return { (s.mark .value 1).allow (!s.inFlow) with key := none }

/-- An alias, an anchor, a tag or a quoted scalar: it may start a key, and none may stand after it. -/
def part (s : Scanner) (read : Cursor → Option (Token × Cursor)) : Option Scanner := do
  let s ← s.remember?
  let (token, k) ← read s.cursor
  return { s.emit token with cursor := k, keyAllowed := false }

def blockScalar (s : Scanner) (style : Style) : Option Scanner := do
  let s ← s.forget?
  let (text, k) ← block style s.indent s.cursor
  return { s.emit (.scalar style (String.ofList text)) with cursor := k, keyAllowed := true }

/-- A plain scalar. If a line ended after it, a key may stand on the next. -/
def plainScalar (s : Scanner) : Option Scanner := do
  let s ← s.remember?
  let (text, k, crossed) ← plain s.inFlow (s.indent + 1) s.cursor
  return { s.emit (.scalar .plain (String.ofList text)) with cursor := k, keyAllowed := crossed }

/-- Characters that start something other than a plain scalar. -/
def isIndicator (c : Char) : Bool :=
  isFlowMark c || c == '-' || c == '?' || c == ':' || c == '#' || c == '&' || c == '*' || c == '!' ||
    c == '|' || c == '>' || c == '\'' || c == '"' || c == '%' || c == '@' || c == '\x60'

/-- The token that starts with `c`. -/
def token (s : Scanner) (c : Char) (rest : List Char) : Option Scanner :=
  let named (make : String → Token) (k : Cursor) : Option (Token × Cursor) :=
    (anchorName (k.advance 1)).map fun (name, k) => (make name, k)
  let quote (k : Cursor) : Option (Token × Cursor) :=
    (quoted c k).map fun (text, k) => (.scalar .quoted (String.ofList text), k)
  if s.cursor.column == 0 && c == '%' then s.directive
  else if s.cursor.atMarker '-' then s.documentMark .documentStart
  else if s.cursor.atMarker '.' then s.documentMark .documentEnd
  else if c == '[' then s.openFlow .flowSequenceStart
  else if c == '\x7b' then s.openFlow .flowMappingStart
  else if c == ']' then s.closeFlow .flowSequenceEnd
  else if c == '\x7d' then s.closeFlow .flowMappingEnd
  else if c == ',' then s.flowEntry
  else if c == '-' && beforeGap rest then s.blockEntry
  else if c == '?' && (s.inFlow || beforeGap rest) then s.explicitKey
  else if c == ':' && (s.inFlow || beforeGap rest) then s.valueMark
  else if c == '*' then s.part (named .reference)
  else if c == '&' then s.part (named .anchor)
  else if c == '!' then s.part (Yaml.tag s.inFlow)
  else if c == '|' && !s.inFlow then s.blockScalar .literal
  else if c == '>' && !s.inFlow then s.blockScalar .folded
  else if c == '\'' || c == '"' then s.part quote
  else if !isIndicator c || c == '-' || (!s.inFlow && (c == '?' || c == ':')) then s.plainScalar
  else none

/-- Scans tokens to the end of the text. -/
def run (s : Scanner) : Nat → Option (List Token)
  | 0 => none
  | fuel + 1 =>
    if !s.keepsKeys then none
    else
      let s := s.skipGap (s.cursor.rest.length + 1)
      let s := s.closeBlocks s.cursor.column
      match s.cursor.rest with
      | [] => s.finish.map (·.tokens.reverse)
      | c :: rest => do
        let s ← s.token c rest
        run s fuel

end Scanner

/-- The tokens of a text; nothing if it is not YAML. Every token but the last takes a character at
least. -/
def tokens (text : List Char) : Option (List Token) :=
  if text.all isPrintable then (Scanner.start text).run (text.length + 1) else none

end EntityGen.Yaml
