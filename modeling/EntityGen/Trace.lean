/-!
What is worth telling about a run. `Event` lists the things that are told, each with its level, its
message and its attributes. A `Traced` computation has a result or a failure, and what it told up to
then: a failure does not take back what was told before it. -/
namespace EntityGen

inductive Level where
  | warn | debug
  deriving DecidableEq, Repr

def Level.name : Level → String
  | warn => "WARN"
  | debug => "DEBUG"

inductive Event where
  /-- A stored field whose kind the catalogue does not have is left out. -/
  | unrecognizedKind (model field kind : String)
  /-- A many-to-one relation that has no column of its own is left out. -/
  | unattachedManyToOne (model field : String)
  /-- A model is normalized, with so many stored fields and relations. -/
  | normalized (app model : String) (fields relations : Nat)
  /-- Nothing is written for a one-to-many relation. -/
  | impliedOneToMany (model field : String)
  /-- Nothing is written for the inverse side of a one-to-one relation. -/
  | impliedOneToOne (field : String)
  /-- An app is asked for that the manifest does not have. -/
  | unknownApp (app : String)
  /-- A settings file that does not hold settings. -/
  | invalidSettings
  /-- The settings name a dialect that there is not. -/
  | unknownDialect (name : String)
  deriving DecidableEq, Repr

namespace Event

def level : Event → Level
  | unrecognizedKind .. | unknownApp _ | invalidSettings | unknownDialect _ => .warn
  | unattachedManyToOne .. | normalized .. | impliedOneToMany .. | impliedOneToOne _ => .debug

def message : Event → String
  | unrecognizedKind .. => "skipping field of unrecognized kind"
  | unattachedManyToOne .. => "dropping many-to-one without local attribute"
  | normalized .. => "normalized model"
  | impliedOneToMany .. => "one-to-many is implied by the owning side"
  | impliedOneToOne _ => "reverse one-to-one is implied by the owning side"
  | unknownApp _ => "unknown app scope"
  | invalidSettings => "ignoring invalid config"
  | unknownDialect _ => "unknown dialect in config"

def attributes : Event → List (String × String)
  | unrecognizedKind model field kind => [("model", model), ("field", field), ("kind", kind)]
  | unattachedManyToOne model field => [("model", model), ("field", field)]
  | normalized app model fields relations =>
    [("app", app), ("model", model), ("fields", toString fields), ("relations", toString relations)]
  | impliedOneToMany model field => [("model", model), ("field", field)]
  | impliedOneToOne field => [("field", field)]
  | unknownApp app => [("app", app)]
  | invalidSettings => []
  | unknownDialect name => [("lang", name)]

end Event

/-- A result or a failure, and the events on the way to it. -/
structure Traced (ε α : Type) where
  events : List Event
  outcome : Except ε α

namespace Traced
variable {ε α β : Type}

def bind (x : Traced ε α) (f : α → Traced ε β) : Traced ε β :=
  match x.outcome with
  | .ok a => ⟨x.events ++ (f a).events, (f a).outcome⟩
  | .error e => ⟨x.events, .error e⟩

instance : Monad (Traced ε) where
  pure a := ⟨[], .ok a⟩
  bind := bind

def tell (event : Event) : Traced ε Unit := ⟨[event], .ok ()⟩

/-- A computation that tells nothing. -/
def ofExcept (outcome : Except ε α) : Traced ε α := ⟨[], outcome⟩

instance : MonadLift (Except ε) (Traced ε) := ⟨ofExcept⟩

/-- The results for all values in order, up to the first failure. -/
def forEach (f : α → Traced ε β) : List α → Traced ε (List β)
  | [] => pure []
  | a :: rest => do
    let b ← f a
    let bs ← forEach f rest
    return b :: bs

@[simp] theorem events_pure (a : α) : (pure a : Traced ε α).events = [] := rfl

@[simp] theorem outcome_pure (a : α) : (pure a : Traced ε α).outcome = .ok a := rfl

@[simp] theorem events_ofExcept (x : Except ε α) : (ofExcept x).events = [] := rfl

@[simp] theorem outcome_ofExcept (x : Except ε α) : (ofExcept x).outcome = x := rfl

theorem bind_eq (x : Traced ε α) (f : α → Traced ε β) : x >>= f = x.bind f := rfl

/-- What follows a result tells its events after those before. -/
theorem bind_of_ok {x : Traced ε α} {a : α} (h : x.outcome = .ok a) (f : α → Traced ε β) :
    x >>= f = ⟨x.events ++ (f a).events, (f a).outcome⟩ := by
  simp [bind_eq, bind, h]

/-- Nothing follows a failure. -/
theorem bind_of_error {x : Traced ε α} {e : ε} (h : x.outcome = .error e) (f : α → Traced ε β) :
    x >>= f = ⟨x.events, .error e⟩ := by
  simp [bind_eq, bind, h]

@[simp] theorem tell_bind (event : Event) (f : Unit → Traced ε β) :
    (tell event >>= f : Traced ε β) = ⟨event :: (f ()).events, (f ()).outcome⟩ := rfl

@[simp] theorem pure_bind (a : α) (f : α → Traced ε β) : (pure a >>= f : Traced ε β) = f a := by
  simp [bind_eq, bind, pure]

end Traced

end EntityGen
