import EntityGen.Command.Arguments
import EntityGen.Conversion
import EntityGen.Manifest.Load
import EntityGen.Settings

/-!
A run of the command: settings and arguments decide what to write, the manifest is read and converted,
and the text is delivered, to the standard output or to a file. A run that stops early delivers nothing;
models that fail do not stop it. -/
namespace EntityGen.Command

/-- Why a run stops with nothing delivered. -/
inductive Abort where
  /-- No language is asked for, and none is set. -/
  | noTarget
  /-- The text fed to the run cannot be read. -/
  | unreadableInput (fault : FileFault)
  /-- The text fed to the run is no manifest. -/
  | invalidInput (fault : Manifest.TextFault)
  | unloaded (path : String) (fault : Manifest.LoadFault)
  | unwritten (path : String) (fault : FileFault)
  deriving Repr

def Abort.message : Abort → String
  | noTarget => "no target language: pass --lang or set [defaults] lang in config"
  | unreadableInput fault => "failed to read stdin: " ++ fault.cause
  | invalidInput fault => "failed to parse manifest from stdin: " ++ fault.message
  | unloaded path fault => "failed to load " ++ path ++ ": " ++ fault.message path
  | unwritten path fault => "failed to write " ++ path ++ ": " ++ fault.cause

/-- What a run leaves behind, apart from files. -/
structure Report where
  code : UInt8
  stdout : String
  /-- What is told on the standard error, each on lines of its own. -/
  stderr : List String
  events : List Event
  deriving DecidableEq, Repr

namespace Report

def aborted (events : List Event) (abort : Abort) : Report where
  code := 1
  stdout := ""
  stderr := ["error: " ++ abort.message]
  events := events

/-- A conversion is delivered to a file or to the standard output. -/
def delivered (events : List Event) (c : Conversion) (output : Option String) : Report where
  code := if c.isClean then 0 else 1
  stdout := if output.isSome then "" else c.text
  stderr :=
    (output.map ("Generated " ++ ·)).toList ++ c.failures.map fun failure => "error: " ++ failure.message
  events := events ++ c.events

end Report

namespace Arguments
variable (a : Arguments)

/-- The dialects to write: those asked for, or else those of the settings. -/
def targets (settings : Settings) : List Event × List Dialect :=
  if a.languages.isEmpty then settings.dialects else ([], a.languages)

/-- How to write them. Arguments only switch off. -/
def options (settings : Settings) : Options where
  go :=
    { storageTags := settings.goOptions.storageTags && !a.withoutStorage
      validationTags := settings.goOptions.validationTags && !a.withoutValidation }

end Arguments

variable {m : Type → Type} [Monad m] (s : Surroundings m)

/-- A manifest from the text that is fed to the run. -/
def fedManifest (input : Except FileFault String) : Except Abort Manifest :=
  match input with
  | .error fault => .error (.unreadableInput fault)
  | .ok text => (Manifest.parse (Manifest.Format.sniff text) text).mapError .invalidInput

def readManifest (path : String) : m (Except Abort Manifest) := do
  if path == "-" then return fedManifest (← s.input)
  else return (← Manifest.load s path).mapError (.unloaded path)

/-- A conversion is brought to where it is wanted. -/
def deliver (events : List Event) (c : Conversion) (output : Option String) : m Report := do
  match output with
  | none => return .delivered events c none
  | some path =>
    match ← s.write path c.text with
    | .error fault => return .aborted (events ++ c.events) (.unwritten path fault)
    | .ok () => return .delivered events c (some path)

def run (a : Arguments) : m Report := do
  let (loading, settings) ← Settings.load s
  let (choosing, targets) := a.targets settings
  let events := loading ++ choosing
  if targets.isEmpty then return .aborted events .noTarget
  match ← readManifest s a.manifest with
  | .error abort => return .aborted events abort
  | .ok manifest =>
    deliver s events (Conversion.run manifest a.apps targets (a.options settings)) a.output

end EntityGen.Command
