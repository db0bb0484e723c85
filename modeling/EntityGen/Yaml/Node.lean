import EntityGen.Yaml.Tokens

/-!
YAML documents as trees. Anchors number the nodes that they stand at, and an alias refers to a number.
A number is the count of distinct names before it, so two nodes can have the same number when a name is
used again; the later one then stands for both. -/
namespace EntityGen.Yaml

inductive Node where
  | reference (number : Nat)
  | scalar (anchor : Option Nat) (tag : Option String) (style : Style) (text : String)
  | sequence (anchor : Option Nat) (items : List Node)
  | mapping (anchor : Option Nat) (pairs : List (Node × Node))
  deriving Repr

namespace Node

/-- Nothing where a node is due. -/
def empty : Node := .scalar none none .plain ""

mutual

/-- The numbered nodes of a tree, in the order in which they start. -/
def anchored : Node → List (Nat × Node)
  | reference _ => []
  | scalar a tag style text =>
    match a with
    | some n => [(n, scalar a tag style text)]
    | none => []
  | sequence a items =>
    match a with
    | some n => (n, sequence a items) :: anchoredItems items
    | none => anchoredItems items
  | mapping a pairs =>
    match a with
    | some n => (n, mapping a pairs) :: anchoredPairs pairs
    | none => anchoredPairs pairs

def anchoredItems : List Node → List (Nat × Node)
  | [] => []
  | item :: rest => item.anchored ++ anchoredItems rest

def anchoredPairs : List (Node × Node) → List (Nat × Node)
  | [] => []
  | (key, value) :: rest => key.anchored ++ value.anchored ++ anchoredPairs rest

end

end Node

/-- What is left of the tokens, and what has been declared before them. -/
structure Source where
  tokens : List Token
  /-- Each anchor name with the number it has now. -/
  anchors : List (String × Nat)
  /-- Tag handles and what they expand to. -/
  handles : List (String × String)
  deriving Repr

namespace Source

def skip (s : Source) : Source := { s with tokens := s.tokens.drop 1 }

def head? (s : Source) : Option Token := s.tokens.head?

/-- The next token is one of these. -/
def isAt (s : Source) (tokens : List Token) : Bool := s.head?.any tokens.contains

/-- A number for an anchor. -/
def declare (s : Source) (name : String) : Nat × Source :=
  let n := s.anchors.length
  (n, { s with anchors := (name, n) :: s.anchors.filter (·.1 != name) })

/-- A tag with its handle expanded. -/
def expand? (s : Source) (handle suffix : String) : Option String :=
  if handle.isEmpty then some suffix else (s.handles.lookup handle).map (· ++ suffix)

/-- The anchor and the tag of a node, in either order. -/
def properties (s : Source) : Option (Option String × Option String) × Source :=
  match s.tokens with
  | .anchor name :: .tag handle suffix :: rest =>
    ((s.expand? handle suffix).map fun t => (some name, some t), { s with tokens := rest })
  | .anchor name :: rest => (some (some name, none), { s with tokens := rest })
  | .tag handle suffix :: .anchor name :: rest =>
    ((s.expand? handle suffix).map fun t => (some name, some t), { s with tokens := rest })
  | .tag handle suffix :: rest =>
    ((s.expand? handle suffix).map fun t => (none, some t), { s with tokens := rest })
  | _ => (some (none, none), s)

/-- The number of a node's anchor if it has one. -/
def number (s : Source) : Option String → Option Nat × Source
  | none => (none, s)
  | some name =>
    let (n, s) := s.declare name
    (some n, s)

end Source

namespace Node

mutual

/-- A node. Block collections may stand where `blocks` holds, and a sequence at the column of its
mapping where `level` does. -/
def parse (blocks level : Bool) : Nat → Source → Option (Node × Source)
  | 0, _ => none
  | fuel + 1, s =>
    match s.tokens with
    | .reference name :: rest => do
      let n ← s.anchors.lookup name
      return (.reference n, { s with tokens := rest })
    | _ => do
      let (properties, s) := s.properties
      let (name, tag) ← properties
      match s.tokens with
      | .scalar style text :: rest =>
        let (n, s) := s.number name
        let tag := tag.filter (· != "!")
        return (.scalar n tag style text, { s with tokens := rest })
      | .flowSequenceStart :: rest =>
        let (n, s) := s.number name
        let (items, s) ← flowItems true fuel { s with tokens := rest }
        return (.sequence n items, s)
      | .flowMappingStart :: rest =>
        let (n, s) := s.number name
        let (pairs, s) ← flowPairs true fuel { s with tokens := rest }
        return (.mapping n pairs, s)
      | token :: rest =>
        let (n, numbered) := s.number name
        if level && token == .blockEntry then
          let (items, s) ← levelItems fuel numbered
          return (.sequence n items, s)
        else if blocks && token == .blockSequenceStart then
          let (items, s) ← blockItems fuel { numbered with tokens := rest }
          return (.sequence n items, s)
        else if blocks && token == .blockMappingStart then
          let (pairs, s) ← blockPairs fuel { numbered with tokens := rest }
          return (.mapping n pairs, s)
        else if name.isSome || tag.isSome then return (.scalar n tag .plain "", numbered)
        else none
      | [] => none

/-- A node, or nothing before one of the tokens given. -/
def parseUnless (ends : List Token) (blocks level : Bool) :
    Nat → Source → Option (Node × Source)
  | 0, _ => none
  | fuel + 1, s => if s.isAt ends then some (empty, s) else parse blocks level fuel s

/-- The items of a block sequence up to its end. -/
def blockItems : Nat → Source → Option (List Node × Source)
  | 0, _ => none
  | fuel + 1, s =>
    match s.tokens with
    | .blockEntry :: rest => do
      let (item, s) ←
        parseUnless [.blockEntry, .blockEnd] true false fuel { s with tokens := rest }
      let (items, s) ← blockItems fuel s
      return (item :: items, s)
    | .blockEnd :: rest => some ([], { s with tokens := rest })
    | _ => none

/-- The items of a sequence at the column of its mapping, up to the first token that is no item. -/
def levelItems : Nat → Source → Option (List Node × Source)
  | 0, _ => none
  | fuel + 1, s =>
    match s.tokens with
    | .blockEntry :: rest => do
      let (item, s) ←
        parseUnless [.blockEntry, .key, .value, .blockEnd] true false fuel { s with tokens := rest }
      let (items, s) ← levelItems fuel s
      return (item :: items, s)
    | _ => some ([], s)

/-- The value of a pair; nothing if no colon stands here. -/
def parseValue (ends : List Token) (blocks : Bool) : Nat → Source → Option (Node × Source)
  | 0, _ => none
  | fuel + 1, s =>
    match s.tokens with
    | .value :: rest => parseUnless ends blocks blocks fuel { s with tokens := rest }
    | _ => some (empty, s)

/-- The pairs of a block mapping up to its end. -/
def blockPairs : Nat → Source → Option (List (Node × Node) × Source)
  | 0, _ => none
  | fuel + 1, s =>
    match s.tokens with
    | .key :: rest => do
      let ends := [Token.key, .value, .blockEnd]
      let (key, s) ← parseUnless ends true true fuel { s with tokens := rest }
      let (value, s) ← parseValue ends true fuel s
      let (pairs, s) ← blockPairs fuel s
      return ((key, value) :: pairs, s)
    | .blockEnd :: rest => some ([], { s with tokens := rest })
    | _ => none

/-- The items of a flow sequence up to its bracket, with commas between them and one allowed after the
last. A key makes a mapping of one pair. -/
def flowItems (first : Bool) : Nat → Source → Option (List Node × Source)
  | 0, _ => none
  | fuel + 1, s =>
    if s.isAt [.flowSequenceEnd] then some ([], s.skip)
    else if !first && !s.isAt [.flowEntry] then none
    else
      let s := if first then s else s.skip
      match s.tokens with
      | .flowSequenceEnd :: rest => some ([], { s with tokens := rest })
      | .key :: rest => do
        let (key, s) ← flowKey fuel { s with tokens := rest }
        let (value, s) ← parseValue [.flowEntry, .flowSequenceEnd] false fuel s
        let (items, s) ← flowItems false fuel s
        return (.mapping none [(key, value)] :: items, s)
      | _ => do
        let (item, s) ← parse false false fuel s
        let (items, s) ← flowItems false fuel s
        return (item :: items, s)

/-- The key of a pair in a flow sequence. An empty key takes the token after it along. -/
def flowKey : Nat → Source → Option (Node × Source)
  | 0, _ => none
  | fuel + 1, s =>
    if s.isAt [.value, .flowEntry, .flowSequenceEnd] then some (empty, s.skip)
    else parse false false fuel s

/-- The pairs of a flow mapping up to its brace, with commas between them and one allowed after the
last. -/
def flowPairs (first : Bool) : Nat → Source → Option (List (Node × Node) × Source)
  | 0, _ => none
  | fuel + 1, s =>
    if s.isAt [.flowMappingEnd] then some ([], s.skip)
    else if !first && !s.isAt [.flowEntry] then none
    else
      let s := if first then s else s.skip
      match s.tokens with
      | .flowMappingEnd :: rest => some ([], { s with tokens := rest })
      | .key :: rest => do
        let (key, s) ←
          parseUnless [.value, .flowEntry, .flowMappingEnd] false false fuel { s with tokens := rest }
        let (value, s) ← parseValue [.flowEntry, .flowMappingEnd] false fuel s
        let (pairs, s) ← flowPairs false fuel s
        return ((key, value) :: pairs, s)
      | _ => do
        let (key, s) ← parse false false fuel s
        let (pairs, s) ← flowPairs false fuel s
        return ((key, empty) :: pairs, s)

end

end Node

/-! ### Documents -/

/-- Handles that need no directive. -/
def standardHandles : List (String × String) := [("!", "!"), ("!!", "tag:yaml.org,2002:")]

/-- Directives up to the first other token. A version may be given once, and so may each handle. -/
def directives (version : Bool) (handles : List (String × String)) :
    List Token → Option (List (String × String) × List Token)
  | .version major minor :: rest =>
    if !version && major = 1 && (minor = 1 || minor = 2) then directives true handles rest else none
  | .tagPrefix handle expansion :: rest =>
    if (handles.lookup handle).isSome then none
    else directives version (handles ++ [(handle, expansion)]) rest
  | rest => some (handles, rest)

/-- The content of a document and what follows it, after directives and a mark for its start. -/
def content (explicit : Bool) (s : Source) : Option (Node × Source) :=
  match explicit, s.tokens with
  | true, .version .. :: _ | true, .tagPrefix .. :: _ | true, .documentStart :: _
  | true, .documentEnd :: _ | true, .streamEnd :: _ => some (.empty, s)
  | _, _ => Node.parse true false (4 * s.tokens.length + 4) s

/-- The one document of a stream. A stream without one holds an empty node. -/
def document (tokens : List Token) : Option Node :=
  match tokens with
  | [.streamEnd] => some .empty
  | tokens => do
    let (own, rest) ← directives false [] tokens
    let (explicit, rest) := match rest with
      | .documentStart :: rest => (true, rest)
      | rest => (false, rest)
    if !explicit && rest.length != tokens.length then none
    let (node, s) ← content explicit ⟨rest, [], own ++ standardHandles⟩
    match s.tokens.dropWhile (· == .documentEnd) with
    | [.streamEnd] => return node
    | _ => none

end EntityGen.Yaml
