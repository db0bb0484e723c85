import EntityGen.Entity.Normalize
import EntityGen.Render.Go
import EntityGen.Render.Kotlin

/-!
The models of chosen apps written in chosen dialects. A conversion goes through the dialects that are asked for, then
through the scopes and then through the entries of the manifest, and keeps what it has written in each target, which
models have failed and what it has told. Every model is normalized once and then written in each target; a model that
fails is reported, and the others are written all the same. -/
namespace EntityGen

/-- How to write each dialect. -/
structure Options where
  go : Go.Options := {}
  deriving DecidableEq, Repr

/-- An entity written in a dialect. -/
def Dialect.render (options : Options) (e : Entity) : Dialect → Traced SchemaError String
  | .go => Go.render options.go e
  | .kotlin => Traced.ofExcept (Kotlin.render e)

/-- A model that could not be written. -/
structure Failure where
  app : String
  model : String
  /-- The dialect that it could not be written in; nothing if it is not an entity. -/
  dialect : Option Dialect
  error : SchemaError
  deriving DecidableEq, Repr

def Failure.message (f : Failure) : String :=
  f.app ++ "." ++ f.model ++
    (match f.dialect with
      | some dialect => " (" ++ dialect.name ++ ")"
      | none => "") ++
    ": " ++ f.error.message

/-- A conversion as far as it has come. -/
structure Conversion where
  /-- What is written in each target, in the order in which the targets are asked for. -/
  texts : List (Dialect × String) := []
  /-- The models that could not be written. -/
  failures : List Failure := []
  events : List Event := []
  deriving DecidableEq, Repr

namespace Conversion
variable (c : Conversion)

/-- The declarations in a dialect, if it is a target. -/
def output? (dialect : Dialect) : Option String := c.texts.lookup dialect

/-- Every target with its declarations. -/
def outputs : List (Dialect × String) :=
  Dialect.all.filterMap fun dialect => (c.output? dialect).map (dialect, ·)

/-- All declarations, one dialect after the other. -/
def text : String := Text.concat (c.outputs.map (·.2))

/-- No model failed. -/
def isClean : Bool := c.failures.isEmpty

def tell (events : List Event) : Conversion := { c with events := c.events ++ events }

def fail (failure : Failure) : Conversion := { c with failures := c.failures ++ [failure] }

/-- A text behind what is written in a dialect, if it is a target. -/
def push (dialect : Dialect) (text : String) : Conversion :=
  { c with
    texts := c.texts.map fun (target, written) => (target, if target = dialect then written ++ text else written) }

/-- A dialect is asked for. It is a target from then on, with a renderer of its own, unless it is one already. -/
def request (progress : Conversion × List Dialect) (dialect : Dialect) : Conversion × List Dialect :=
  let (c, renderers) := progress
  if (c.output? dialect).isSome then (c, renderers)
  else ({ c with texts := c.texts ++ [(dialect, "")] }, renderers ++ [dialect])

/-- An app is asked for. -/
def checkScope (known : List String) (scope : String) : Conversion :=
  if known.contains scope then c else c.tell [.unknownApp scope]

variable (options : Options)

/-- An entity is written in one target. -/
def write (app : String) (model : Model) (e : Entity) (dialect : Dialect) : Conversion :=
  let x := dialect.render options e
  match x.outcome with
  | .ok text => (c.tell x.events).push dialect text
  | .error error => (c.tell x.events).fail ⟨app, model.name, some dialect, error⟩

/-- A model of an app is normalized, and written in every target. -/
def addModel (renderers : List Dialect) (app : String) (model : Model) : Conversion :=
  let x := model.normalize app
  match x.outcome with
  | .error error => (c.tell x.events).fail ⟨app, model.name, none, error⟩
  | .ok e =>
    let normalized := Event.normalized app e.className e.columns.length e.relationCount
    renderers.foldl (fun c dialect => c.write options app model e dialect) (c.tell (x.events ++ [normalized]))

/-- An entry of the manifest is passed over, or its models are converted. -/
def addApp (renderers : List Dialect) (scopes : List String) (app : App) : Conversion :=
  if scopes.contains app.label then
    app.models.foldl (fun c model => c.addModel options renderers app.label model) c
  else c

/-- The models in scope, written in the target dialects, each dialect once. -/
def run (manifest : Manifest) (scopes : List String) (targets : List Dialect) (options : Options) : Conversion :=
  let (requested, renderers) := targets.foldl request ({}, [])
  let checked := scopes.foldl (fun c scope => c.checkScope manifest.labels scope) requested
  manifest.apps.foldl (fun c app => c.addApp options renderers scopes app) checked

end Conversion

end EntityGen
