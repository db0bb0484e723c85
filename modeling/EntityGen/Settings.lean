import EntityGen.Render.Go
import EntityGen.Surroundings
import EntityGen.Toml.Reader

/-!
Settings of a user and of a project. A setting may be left open; the project's settings stand over the
user's one by one, and what both leave open has a default. A file that does not hold settings counts as
one that is not there. -/
namespace EntityGen

/-- Which tags to write in Go. -/
structure TagSettings where
  storage : Option Bool := none
  validation : Option Bool := none
  deriving DecidableEq, Repr

structure Settings where
  tags : TagSettings := {}
  /-- The names of the dialects to write if none are asked for. -/
  languages : Option (List String) := none
  deriving DecidableEq, Repr

section
variable {ν ε : Type} (reader : Reader ν ε)

def TagSettings.shape : Shape ν ε TagSettings where
  title := "TagSettings"
  blank := {}
  attributes :=
    [.of "storage_tags" .optional (reader.optional reader.flag) fun v s => { s with storage := v },
     .of "validation_tags" .optional (reader.optional reader.flag) fun v s => { s with validation := v }]

/-- What is settled about a run's arguments: the languages. -/
def Settings.languagesShape : Shape ν ε (Option (List String)) where
  title := "Languages"
  blank := none
  attributes := [.of "lang" .optional (reader.optional (reader.list reader.text)) fun v _ => v]

def Settings.shape : Shape ν ε Settings where
  title := "Settings"
  blank := {}
  attributes :=
    [.of "gorm" .defaulted (reader.record (TagSettings.shape reader)) fun v s => { s with tags := v },
     .of "defaults" .defaulted (reader.record (Settings.languagesShape reader))
       fun v s => { s with languages := v }]

end

namespace Settings

/-- A TOML text as settings. -/
def parse? (text : String) : Option Settings :=
  (Toml.readDocument (Toml.reader.record (shape Toml.reader)) text).toOption

/-- These settings, and where they leave something open, the others. -/
def orElse (upper lower : Settings) : Settings where
  tags :=
    { storage := upper.tags.storage <|> lower.tags.storage
      validation := upper.tags.validation <|> lower.tags.validation }
  languages := upper.languages <|> lower.languages

/-- What leaves everything open changes nothing below it. -/
@[simp] theorem empty_orElse (lower : Settings) : ({} : Settings).orElse lower = lower := rfl

/-- What leaves everything open adds nothing. -/
@[simp] theorem orElse_empty (upper : Settings) : upper.orElse {} = upper := by
  obtain ⟨⟨storage, validation⟩, languages⟩ := upper
  cases storage <;> cases validation <;> cases languages <;> rfl

/-- The settings in a file, if there is one. -/
def ofLayer (layer : Option String) : List Event × Settings :=
  match layer with
  | none => ([], {})
  | some text =>
    match parse? text with
    | some settings => ([], settings)
    | none => ([.invalidSettings], {})

/-- The settings in the user's file and in the project's. -/
def ofLayers (user project : Option String) : List Event × Settings :=
  let (userEvents, lower) := ofLayer user
  let (projectEvents, upper) := ofLayer project
  (userEvents ++ projectEvents, upper.orElse lower)

/-- How to write Go: with every kind of tag that is not switched off. -/
def goOptions (settings : Settings) : Go.Options where
  storageTags := settings.tags.storage.getD true
  validationTags := settings.tags.validation.getD true

/-- The dialects of those names, and an event for each that is none. -/
def dialectsNamed : List String → List Event × List Dialect
  | [] => ([], [])
  | name :: rest =>
    let (events, dialects) := dialectsNamed rest
    match Dialect.ofName? name with
    | some dialect => (events, dialect :: dialects)
    | none => (.unknownDialect name :: events, dialects)

/-- The dialects to write if none are asked for. -/
def dialects (settings : Settings) : List Event × List Dialect :=
  dialectsNamed (settings.languages.getD [])

/-! ### Where settings are -/

/-- A path below a directory. -/
def below (directory path : String) : String :=
  if directory.isEmpty || directory.toList.getLast? == some '/' then directory ++ path
  else directory ++ "/" ++ path

/-- The file with a user's settings: in the directory for such files, or else in the usual one below the
user's home. -/
def userPath? (configHome home : Option String) : Option String :=
  (configHome <|> home.map (below · ".config")).map (below · "ormgen/config.toml")

/-- The file with a project's settings, from the project's directory. -/
def projectPath : String := ".ormgen/config.toml"

/-- The text of a file, if it can be read. -/
def layer {m : Type → Type} [Monad m] (s : Surroundings m) (path : Option String) :
    m (Option String) :=
  match path with
  | none => return none
  | some path => return (← s.read path).toOption

/-- The settings that hold in the surroundings. -/
def load {m : Type → Type} [Monad m] (s : Surroundings m) : m (List Event × Settings) := do
  let user ← layer s s.userSettings
  let project ← layer s (some projectPath)
  return ofLayers user project

end Settings

end EntityGen
