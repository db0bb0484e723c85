import EntityGen.Dialect.Basic

/-!
The arguments of a run, read from left to right. An option that takes values keeps the words after it
until it is *settled*: when the next argument comes, or at the end. Only then are its values looked at,
so of two mistakes the first to be met is the one that is told. Taking values is word by word
(`Draft.take`), so it makes no difference whether they come at once or with the option repeated. -/
namespace EntityGen.Command

/-- What a run is asked to do. -/
structure Arguments where
  /-- The path of the manifest, or a dash for the text that is fed to the run. -/
  manifest : String
  /-- The labels of the apps to convert. -/
  apps : List String
  languages : List Dialect := []
  withoutStorage : Bool := false
  withoutValidation : Bool := false
  /-- The path of the file to write. -/
  output : Option String := none
  verbose : Bool := false
  deriving DecidableEq, Repr

/-- Options without a value. -/
inductive Switch where
  | withoutStorage | withoutValidation | verbose | help | version
  deriving DecidableEq, Repr

/-- Options with values. -/
inductive Valued where
  | apps | languages | output
  deriving DecidableEq, Repr

inductive Flag where
  | switch (switch : Switch)
  | valued (option : Valued)
  deriving DecidableEq, Repr

/-- The flags by their names after two dashes. -/
def longNames : List (String × Flag) :=
  [("apps", .valued .apps), ("lang", .valued .languages), ("output", .valued .output),
   ("no-orm", .switch .withoutStorage), ("no-validation", .switch .withoutValidation),
   ("verbose", .switch .verbose), ("help", .switch .help), ("version", .switch .version)]

/-- The flags by their letters after one dash. -/
def letters : List (Char × Flag) :=
  [('a', .valued .apps), ('l', .valued .languages), ('o', .valued .output),
   ('v', .switch .verbose), ('h', .switch .help), ('V', .switch .version)]

/-- Why words are not the arguments of a run. -/
inductive UsageError where
  /-- Help is asked for. -/
  | help
  /-- The version is asked for. -/
  | version
  /-- The manifest or the apps are not given. -/
  | missing
  | withoutValue (flag : Flag)
  | invalidLanguage (word : String)
  | emptyPath
  /-- A word that is no argument here. -/
  | unknown (word : String)
  /-- A flag that may come once comes again. -/
  | repeated (flag : Flag)
  /-- A switch with a value. -/
  | unwantedValue (flag : Flag) (value : String)
  deriving DecidableEq, Repr

namespace UsageError

/-- The exit code of a run that ends so. -/
def code : UsageError → UInt8
  | help | version => 0
  | _ => 2

end UsageError

/-- The names that the option for languages takes, spelled just so. -/
def languageNames : List (String × Dialect) :=
  [("go", .go), ("gorm", .go), ("golang", .go), ("kotlin", .kotlin), ("kt", .kotlin), ("java", .kotlin),
   ("jpa", .kotlin)]

/-! ### What is settled -/

/-- The arguments that are settled so far. -/
structure Draft where
  manifest : Option String := none
  apps : List String := []
  languages : List Dialect := []
  output : Option String := none
  withoutStorage : Bool := false
  withoutValidation : Bool := false
  verbose : Bool := false
  deriving DecidableEq, Repr

namespace Draft

/-- The values in a word: it is cut at its commas. -/
def values (word : String) : List String := (word.toList.splitOn ',').map String.ofList

/-- The language that the option takes by that name. -/
def language (name : String) : Except UsageError Dialect :=
  match languageNames.lookup name with
  | some dialect => .ok dialect
  | none => .error (.invalidLanguage name)

/-- The values of one word of an option. -/
def takeWord (option : Valued) (draft : Draft) (word : String) : Except UsageError Draft :=
  match option with
  | .apps => .ok { draft with apps := draft.apps ++ values word }
  | .languages =>
    ((values word).mapM language).map fun dialects =>
      { draft with languages := draft.languages ++ dialects }
  | .output =>
    if draft.output.isSome then .error (.repeated (.valued .output))
    else if word.isEmpty then .error .emptyPath
    else .ok { draft with output := some word }

/-- The values of all words of an option. -/
def take (option : Valued) (draft : Draft) (words : List String) : Except UsageError Draft :=
  words.foldlM (takeWord option) draft

/-- Words are taken the same in one go as in two. -/
theorem take_append (option : Valued) (draft : Draft) (first second : List String) :
    take option draft (first ++ second) = take option draft first >>= (take option · second) :=
  List.foldlM_append

/-- A switch is thrown, once. -/
def throwSwitch (draft : Draft) (switch : Switch) : Except UsageError Draft :=
  let once (thrown : Bool) (after : Draft) : Except UsageError Draft :=
    if thrown then .error (.repeated (.switch switch)) else .ok after
  match switch with
  | .withoutStorage => once draft.withoutStorage { draft with withoutStorage := true }
  | .withoutValidation => once draft.withoutValidation { draft with withoutValidation := true }
  | .verbose => once draft.verbose { draft with verbose := true }
  | .help => .error .help
  | .version => .error .version

def takeManifest (draft : Draft) (word : String) : Except UsageError Draft :=
  if word.isEmpty then .error .emptyPath else .ok { draft with manifest := some word }

/-- The arguments, if none is missing. -/
def finish (draft : Draft) : Except UsageError Arguments :=
  match draft.manifest with
  | none => .error .missing
  | some manifest =>
    if draft.apps.isEmpty then .error .missing
    else
      .ok
        { manifest := manifest
          apps := draft.apps
          languages := draft.languages
          withoutStorage := draft.withoutStorage
          withoutValidation := draft.withoutValidation
          output := draft.output
          verbose := draft.verbose }

end Draft

/-! ### Word by word -/

/-- An argument that is not settled. -/
inductive Pending where
  | nothing
  | manifest (word : String)
  | values (option : Valued) (words : List String)
  deriving DecidableEq, Repr

/-- Whether the next word is a value of the pending option. The output has one. -/
def Pending.isOpen : Pending → Bool
  | values .output words => words.isEmpty
  | values .. => true
  | _ => false

/-- The words read so far: what is settled, what is pending, and whether flags have been closed off. -/
structure Scan where
  draft : Draft := {}
  pending : Pending := .nothing
  closed : Bool := false
  deriving DecidableEq, Repr

namespace Scan
variable (scan : Scan)

/-- The pending argument is settled. -/
def settle : Except UsageError Scan :=
  let settled (draft : Draft) : Scan := { scan with draft := draft, pending := .nothing }
  match scan.pending with
  | .nothing => .ok scan
  | .manifest word => (scan.draft.takeManifest word).map settled
  | .values option [] => .error (.withoutValue (.valued option))
  | .values option words => (scan.draft.take option words).map settled

def throwSwitch (switch : Switch) : Except UsageError Scan := do
  let scan ← scan.settle
  let draft ← scan.draft.throwSwitch switch
  return { scan with draft := draft }

/-- An option comes, with the value that is attached to it or else with words to come. -/
def startOption (option : Valued) (attached : Option String) : Except UsageError Scan := do
  let scan ← scan.settle
  match attached with
  | none => return { scan with pending := .values option [] }
  | some word =>
    let draft ← scan.draft.take option [word]
    return { scan with draft := draft }

/-- Whether the manifest has been given. -/
def hasManifest : Bool :=
  scan.draft.manifest.isSome || (match scan.pending with | .manifest _ => true | _ => false)

/-- A word on its own is the manifest, which comes once. -/
def positional (word : String) : Except UsageError Scan :=
  if scan.hasManifest then .error (.unknown word)
  else do
    let scan ← scan.settle
    return { scan with pending := .manifest word }

/-- A word that is no flag. -/
def plain (word : String) : Except UsageError Scan :=
  match scan.pending with
  | .values option words =>
    if scan.pending.isOpen then .ok { scan with pending := .values option (words ++ [word]) }
    else scan.positional word
  | _ => scan.positional word

/-- A flag after two dashes, and behind an equals sign its value. -/
def long (word : String) (rest : List Char) : Except UsageError Scan :=
  let name := rest.takeWhile (· != '=')
  let attached := if name.length < rest.length then some (String.ofList (rest.drop (name.length + 1))) else none
  match longNames.lookup (String.ofList name), attached with
  | none, _ => .error (.unknown word)
  | some (.valued option), attached => scan.startOption option attached
  | some (.switch switch), none => scan.throwSwitch switch
  | some (.switch switch), some value => .error (.unwantedValue (.switch switch) value)

/-- The value that stands behind the letter of an option in the same word. -/
def attachedTo (rest : List Char) : Option String :=
  match rest with
  | [] => none
  | '=' :: value => some (String.ofList value)
  | value => some (String.ofList value)

/-- Letters after one dash: switches, and at the end an option. -/
def short (word : String) : Scan → List Char → Except UsageError Scan
  | scan, [] => .ok scan
  | scan, letter :: rest =>
    match letters.lookup letter with
    | none => .error (.unknown word)
    | some (.switch switch) => do short word (← scan.throwSwitch switch) rest
    | some (.valued option) => scan.startOption option (attachedTo rest)

/-- The next word. After two dashes alone no word is a flag or the value of an option. -/
def next (word : String) : Except UsageError Scan :=
  if scan.closed then scan.positional word
  else
    match word.toList with
    | ['-', '-'] => .ok { scan with closed := true }
    | '-' :: '-' :: rest => scan.long word rest
    | ['-'] => scan.plain word
    | '-' :: rest => short word scan rest
    | _ => scan.plain word

/-- All words from here on, and the end. -/
def finish : Scan → List String → Except UsageError Arguments
  | scan, [] => do (← scan.settle).draft.finish
  | scan, word :: rest => do finish (← scan.next word) rest

end Scan

/-- The arguments that the words of a command line give. -/
def Arguments.parse (words : List String) : Except UsageError Arguments := Scan.finish {} words

end EntityGen.Command
