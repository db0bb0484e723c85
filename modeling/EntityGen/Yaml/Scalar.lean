import EntityGen.Yaml.Cursor
import EntityGen.Yaml.Token

/-!
The scalars of a YAML text. A plain or quoted scalar may go over several lines, which are folded: one
line break is a space, and of more the first is dropped. A block scalar keeps its lines or folds them,
and says what becomes of its last line breaks. -/
namespace EntityGen.Yaml

/-! ### Gaps -/

/-- Spaces and line breaks inside a scalar. -/
structure Gap where
  /-- The spaces before the first line break. -/
  spaces : List Char
  /-- The line breaks, as read. -/
  breaks : List Char
  /-- The line was broken by an escape, which leaves nothing of the first break. -/
  escaped : Bool
  deriving DecidableEq, Repr

namespace Gap

def empty : Gap := ⟨[], [], false⟩

/-- The gap goes over the end of a line. -/
def crossesLine (g : Gap) : Bool := g.escaped || !g.breaks.isEmpty

/-- What is left of the gap in the scalar. -/
def folded (g : Gap) : List Char :=
  if g.escaped then g.breaks
  else
    match g.breaks with
    | [] => g.spaces
    | ['\n'] => [' ']
    | '\n' :: more => more
    | breaks => breaks

/-- Reads a gap. After a line break, a tab left of `indent` is refused. -/
def read? (indent : Int) (g : Gap) : Nat → Cursor → Option (Gap × Cursor)
  | 0, _ => none
  | fuel + 1, k =>
    match k.rest with
    | [] => some (g, k)
    | c :: _ =>
      if isSpace c then
        if g.crossesLine then
          if c == '\t' && decide (k.column < indent) then none
          else read? indent g fuel (k.advance 1)
        else read? indent { g with spaces := g.spaces ++ [c] } fuel (k.advance 1)
      else
        match k.readBreak? with
        | some (b, next) => read? indent { g with spaces := [], breaks := g.breaks ++ [b] } fuel next
        | none => some (g, k)

end Gap

/-! ### Plain scalars -/

/-- The part of a plain scalar up to the next gap. A colon ends it before a gap, and the marks of flow
collections end it inside one; there a colon may not stand right before such a mark. -/
def plainRun (flow : Bool) : List Char → Option (List Char)
  | [] => some []
  | c :: rest =>
    if isGap c then some []
    else if flow && c == ':' && rest.head?.any (fun d => isFlowMark d || d == '?') then none
    else if (c == ':' && beforeGap rest) || (flow && isFlowMark c) then some []
    else (plainRun flow rest).map (c :: ·)

/-- A plain scalar, its text so far, and the gap after that. Gives the text, the place after it, and
whether a line ended on the way there. -/
def plainFrom (flow : Bool) (indent : Int) (text : List Char) (gap : Gap) :
    Nat → Cursor → Option (List Char × Cursor × Bool)
  | 0, _ => none
  | fuel + 1, k =>
    if k.atDocumentMark || k.rest.head? == some '#' then some (text, k, gap.crossesLine)
    else do
      let run ← plainRun flow k.rest
      if run.isEmpty then return (text, k, gap.crossesLine)
      let text := text ++ gap.folded ++ run
      let k := k.advance run.length
      let (gap, next) ← Gap.empty.read? indent (k.rest.length + 1) k
      if gap.spaces.isEmpty && !gap.crossesLine then return (text, k, false)
      if !flow && decide (next.column < indent) then return (text, next, gap.crossesLine)
      plainFrom flow indent text gap fuel next

/-- A plain scalar that starts here. -/
def plain (flow : Bool) (indent : Int) (k : Cursor) : Option (List Char × Cursor × Bool) :=
  plainFrom flow indent [] Gap.empty (k.rest.length + 1) k

/-! ### Quoted scalars -/

def hexDigit? (c : Char) : Option Nat :=
  if c.isDigit then some (c.toNat - '0'.toNat)
  else if 'a' ≤ c ∧ c ≤ 'f' then some (c.toNat - 'a'.toNat + 10)
  else if 'A' ≤ c ∧ c ≤ 'F' then some (c.toNat - 'A'.toNat + 10)
  else none

/-- The number that hexadecimal digits stand for, if they are `count` many. -/
def hex? (count : Nat) (cs : List Char) : Option Nat :=
  if cs.length < count then none
  else (cs.take count).foldlM (fun n c => (hexDigit? c).map (n * 16 + ·)) 0

/-- The character that a one-letter escape stands for. -/
def escape? : Char → Option Char
  | '0' => some '\x00'
  | 'a' => some '\x07'
  | 'b' => some '\x08'
  | 't' => some '\t'
  | '\t' => some '\t'
  | 'n' => some '\n'
  | 'v' => some '\x0b'
  | 'f' => some '\x0c'
  | 'r' => some '\r'
  | 'e' => some '\x1b'
  | ' ' => some ' '
  | '"' => some '"'
  | '/' => some '/'
  | '\\' => some '\\'
  | 'N' => some '\x85'
  | '_' => some '\xa0'
  | 'L' => some '\u2028'
  | 'P' => some '\u2029'
  | _ => none

/-- How many digits follow an escape by number. -/
def escapeDigits? : Char → Option Nat
  | 'x' => some 2
  | 'u' => some 4
  | 'U' => some 8
  | _ => none

/-- The character that an escape stands for, and how many characters it takes after the backslash.
Surrogates are no characters. -/
def escaped? (cs : List Char) : Option (Char × Nat) :=
  match cs with
  | [] => none
  | c :: rest =>
    match escapeDigits? c with
    | some count => do
      let n ← hex? count rest
      if h : n.isValidChar then return (Char.ofNatAux n h, count + 1) else none
    | none => (escape? c).map (·, 1)

/-- The part of a quoted scalar up to the closing quote, a gap or an escaped line break, and whether it
is the last of these. -/
def quotedRun (quote : Char) : Nat → Cursor → Option (List Char × Cursor × Bool)
  | 0, _ => none
  | fuel + 1, k =>
    let after (c : Char) (count : Nat) : Option (List Char × Cursor × Bool) :=
      (quotedRun quote fuel (k.advance count)).map fun (text, rest) => (c :: text, rest)
    match k.rest with
    | [] => some ([], k, false)
    | c :: rest =>
      if isGap c then some ([], k, false)
      else if c == quote then
        if quote == '\'' && rest.head? == some '\'' then after '\'' 2 else some ([], k, false)
      else if quote == '"' && c == '\\' then
        if !rest.isEmpty && beforeBreak rest then some ([], (k.advance 1).skipBreak, true)
        else
          match escaped? rest with
          | some (d, count) => after d (count + 1)
          | none => none
      else after c 1

/-- A quoted scalar after its opening quote, and its text so far. -/
def quotedFrom (quote : Char) (text : List Char) : Nat → Cursor → Option (List Char × Cursor)
  | 0, _ => none
  | fuel + 1, k =>
    if k.atDocumentMark || k.rest.isEmpty then none
    else do
      let (run, k, escaped) ← quotedRun quote (k.rest.length + 1) k
      if k.rest.head? == some quote then return (text ++ run, k.advance 1)
      let (gap, k) ← ({ Gap.empty with escaped } : Gap).read? 0 (k.rest.length + 1) k
      quotedFrom quote (text ++ run ++ gap.folded) fuel k

/-- A quoted scalar that starts here with its opening quote. -/
def quoted (quote : Char) (k : Cursor) : Option (List Char × Cursor) :=
  quotedFrom quote [] (k.rest.length + 1) (k.advance 1)

/-! ### Block scalars -/

/-- What becomes of the line breaks at the end of a block. -/
inductive Chomping where
  | strip
  /-- One is kept. -/
  | clip
  | keep
  deriving DecidableEq, Repr

def chomping? : Char → Option Chomping
  | '+' => some .keep
  | '-' => some .strip
  | _ => none

/-- The digit of an indentation, which is not zero. -/
def indentDigit? (c : Char) : Option Nat :=
  if c.isDigit then some (c.toNat - '0'.toNat) else none

/-- The header of a block after its first mark: how it ends, and its indentation if that is given. -/
def blockHeader (k : Cursor) : Option (Chomping × Nat × Cursor) :=
  let chomp (k : Cursor) : Option (Chomping × Cursor) :=
    match k.rest.head?.bind chomping? with
    | some c => some (c, k.advance 1)
    | none => some (.clip, k)
  let indent (k : Cursor) : Option (Nat × Cursor) :=
    match k.rest.head?.bind indentDigit? with
    | some 0 => none
    | some n => some (n, k.advance 1)
    | none => some (0, k)
  if (k.rest.head?.bind chomping?).isSome then do
    let (c, k) ← chomp k
    let (n, k) ← indent k
    return (c, n, k)
  else do
    let (n, k) ← indent k
    let (c, k) ← if n = 0 then some (.clip, k) else chomp k
    return (c, n, k)

/-- The empty lines before a line of a block. `indent` is zero as long as it is not known. Gives the
line breaks, the place after them, and the largest column on the way. -/
def blockBreaks (indent : Nat) (breaks : List Char) (largest : Nat) :
    Nat → Cursor → Option (List Char × Cursor × Nat)
  | 0, _ => none
  | fuel + 1, k =>
    let spaces := (k.rest.takeWhile (· == ' ')).length
    let k := k.advance (if indent = 0 then spaces else min spaces (indent - k.column))
    let largest := max largest k.column
    if (indent = 0 || decide (k.column < indent)) && k.rest.head? == some '\t' then none
    else
      match k.readBreak? with
      | some (b, next) => blockBreaks indent (breaks ++ [b]) largest fuel next
      | none => some (breaks, k, largest)

/-- The text of a block under way. -/
structure Block where
  text : List Char
  /-- The break at the end of the last line. -/
  leading : List Char
  /-- The breaks of the empty lines after it. -/
  trailing : List Char
  /-- The last line starts with a space. -/
  spaced : Bool

/-- The lines of a block, each starting at column `indent`. -/
def blockLines (style : Style) (indent : Nat) (block : Block) :
    Nat → Cursor → Option (Block × Cursor)
  | 0, _ => none
  | fuel + 1, k =>
    if k.column ≠ indent || k.rest.isEmpty then some (block, k)
    else do
      let spaced := k.rest.head?.any isSpace
      let joined :=
        if style == .folded && block.leading == ['\n'] && !block.spaced && !spaced then
          if block.trailing.isEmpty then [' '] else []
        else block.leading
      let line := k.rest.takeWhile (!isBreak ·)
      let k := k.advance line.length
      let (leading, k) := match k.readBreak? with
        | some (b, next) => ([b], next)
        | none => ([], k)
      let (trailing, k, _) ← blockBreaks indent [] 0 (k.rest.length + 1) k
      blockLines style indent
        ⟨block.text ++ joined ++ block.trailing ++ line, leading, trailing, spaced⟩ fuel k

/-- A block scalar that starts here with its mark. `outer` is the indentation of what holds it. -/
def block (style : Style) (outer : Int) (k : Cursor) : Option (List Char × Cursor) := do
  let (chomping, increment, k) ← blockHeader (k.advance 1)
  let k := k.skipWhile isSpace
  let k := if k.rest.head? == some '#' then k.skipLine else k
  if !beforeBreak k.rest then none
  let k := k.skipBreak
  let given := if increment = 0 then 0 else (max outer 0).toNat + increment
  let (trailing, k, largest) ← blockBreaks given [] 0 (k.rest.length + 1) k
  let indent := if given = 0 then max (max largest (outer + 1).toNat) 1 else given
  let (b, k) ← blockLines style indent ⟨[], [], trailing, false⟩ (k.rest.length + 1) k
  let text := if chomping == .strip then b.text else b.text ++ b.leading
  return (if chomping == .keep then text ++ b.trailing else text, k)

end EntityGen.Yaml
