import EntityGen.Conversion
import Mathlib.Data.List.Basic

/-!
What a conversion comes to. A conversion goes through models and targets step by step; what becomes of one model is told
of the model alone (`ofModel`), and outcomes put one behind the other make the outcome of several (`Outcome.concat`).
Every step takes a conversion further by an outcome that does not depend on how far it has come (`extend`): an entity
that is written, a model or an entry that is added. So a whole conversion starts with an empty text for each target and
goes further by the outcome of the models in scope (`run_eq_extend`). -/
namespace EntityGen

/-- What becomes of one model, or of several one after the other. -/
structure Outcome where
  texts : List (Dialect × String) := []
  failures : List Failure := []
  events : List Event := []
  deriving DecidableEq, Repr

namespace Outcome

def append (first second : Outcome) : Outcome where
  texts := first.texts ++ second.texts
  failures := first.failures ++ second.failures
  events := first.events ++ second.events

def concat : List Outcome → Outcome
  | [] => {}
  | first :: rest => first.append (concat rest)

@[simp] theorem texts_append (first second : Outcome) :
    (first.append second).texts = first.texts ++ second.texts := rfl

@[simp] theorem failures_append (first second : Outcome) :
    (first.append second).failures = first.failures ++ second.failures := rfl

@[simp] theorem events_append (first second : Outcome) :
    (first.append second).events = first.events ++ second.events := rfl

theorem append_assoc (first second third : Outcome) :
    (first.append second).append third = first.append (second.append third) := by
  simp only [append, List.append_assoc]

theorem concat_append (first second : List Outcome) :
    concat (first ++ second) = (concat first).append (concat second) := by
  induction first with
  | nil => rfl
  | cons o rest ih => rw [List.cons_append, concat, concat, ih, append_assoc]

theorem failures_concat (outcomes : List Outcome) :
    (concat outcomes).failures = outcomes.flatMap (·.failures) := by
  induction outcomes with
  | nil => rfl
  | cons first rest ih => rw [concat, failures_append, ih, List.flatMap_cons]

/-- The texts in one dialect, in order. -/
def textsIn (o : Outcome) (dialect : Dialect) : List String :=
  (o.texts.filter (·.1 == dialect)).map (·.2)

theorem textsIn_append (first second : Outcome) (dialect : Dialect) :
    (first.append second).textsIn dialect = first.textsIn dialect ++ second.textsIn dialect := by
  simp [textsIn]

theorem textsIn_concat (outcomes : List Outcome) (dialect : Dialect) :
    (concat outcomes).textsIn dialect = outcomes.flatMap (·.textsIn dialect) := by
  induction outcomes with
  | nil => rfl
  | cons first rest ih => rw [concat, textsIn_append, ih, List.flatMap_cons]

end Outcome

/-! ### Models on their own -/

namespace Conversion
variable (options : Options) (app : String) (model : Model)

/-- An entity written in one dialect. -/
def written (e : Entity) (dialect : Dialect) : Outcome :=
  let x := dialect.render options e
  match x.outcome with
  | .ok text => { texts := [(dialect, text)], events := x.events }
  | .error error => { failures := [⟨app, model.name, some dialect, error⟩], events := x.events }

/-- A model of an app written in each of the dialects. -/
def ofModel (dialects : List Dialect) : Outcome :=
  let x := model.normalize app
  match x.outcome with
  | .error error => { failures := [⟨app, model.name, none, error⟩], events := x.events }
  | .ok e =>
    let normalized := Event.normalized app e.className e.columns.length e.relationCount
    Outcome.append { events := x.events ++ [normalized] }
      (Outcome.concat (dialects.map (written options app model e)))

theorem ofModel_of_error {error : SchemaError} (h : (model.normalize app).outcome = .error error)
    (dialects : List Dialect) :
    ofModel options app model dialects =
      { failures := [⟨app, model.name, none, error⟩], events := (model.normalize app).events } := by
  simp only [ofModel, h]

theorem ofModel_of_ok {e : Entity} (h : (model.normalize app).outcome = .ok e)
    (dialects : List Dialect) :
    ofModel options app model dialects =
      Outcome.append
        { events := (model.normalize app).events ++
            [.normalized app e.className e.columns.length e.relationCount] }
        (Outcome.concat (dialects.map (written options app model e))) := by
  simp only [ofModel, h]

/-! ### Models in scope -/

/-- The models of all entries whose label is in scope, in order, with their labels. -/
def selected (apps : List App) (scopes : List String) : List (String × Model) :=
  (apps.filter (scopes.contains ·.label)).flatMap fun app => app.models.map (app.label, ·)

theorem selected_append (first second : List App) (scopes : List String) :
    selected (first ++ second) scopes = selected first scopes ++ selected second scopes := by
  rw [selected, List.filter_append, List.flatMap_append]
  rfl

theorem selected_entry (label : String) (models : List Model) (scopes : List String) :
    selected [⟨label, models⟩] scopes = if label ∈ scopes then models.map (label, ·) else [] := by
  by_cases h : label ∈ scopes <;> simp [selected, h]

theorem selected_cons (label : String) (models : List Model) (rest : List App) (scopes : List String) :
    selected (⟨label, models⟩ :: rest) scopes =
      (if label ∈ scopes then models.map (label, ·) else []) ++ selected rest scopes := by
  rw [← selected_entry]
  exact selected_append [_] rest scopes

theorem mem_selected {apps : List App} {scopes : List String} {label : String} {model : Model} :
    (label, model) ∈ selected apps scopes ↔
      label ∈ scopes ∧ ∃ app ∈ apps, app.label = label ∧ model ∈ app.models := by
  simp only [selected, List.mem_flatMap, List.mem_filter, List.contains_iff_mem, List.mem_map, Prod.mk.injEq]
  constructor
  · intro h
    obtain ⟨app, ⟨there, inScope⟩, _, mem, rfl, rfl⟩ := h
    exact ⟨inScope, app, there, rfl, mem⟩
  · intro h
    obtain ⟨inScope, app, there, rfl, mem⟩ := h
    exact ⟨app, ⟨there, inScope⟩, model, mem, rfl, rfl⟩

/-- The apps that are asked for but not there. -/
def unknownApps (manifest : Manifest) (scopes : List String) : List Event :=
  (scopes.filter (!manifest.labels.contains ·)).map .unknownApp

/-- What becomes of the models in scope, after what is told of the apps that are not there. -/
def outcome (manifest : Manifest) (scopes : List String) (targets : List Dialect) (options : Options) : Outcome :=
  Outcome.append { events := unknownApps manifest scopes }
    (Outcome.concat ((selected manifest.apps scopes).map fun p =>
      ofModel options p.1 p.2 (firstOccurrences targets)))

/-! ### Steps -/

/-- A conversion that has come further by an outcome. -/
def extend (c : Conversion) (o : Outcome) : Conversion where
  texts := c.texts.map fun (dialect, text) => (dialect, text ++ Text.concat (o.textsIn dialect))
  failures := c.failures ++ o.failures
  events := c.events ++ o.events

section Steps
variable {α : Type} (c : Conversion) (dialects : List Dialect)

@[simp] theorem extend_empty : c.extend {} = c := by
  simp [extend, Outcome.textsIn]

theorem extend_append (first second : Outcome) :
    c.extend (first.append second) = (c.extend first).extend second := by
  simp [extend, Outcome.textsIn_append, Text.concat_append, String.append_assoc]

theorem tell_eq_extend (events : List Event) : c.tell events = c.extend { events } := by
  simp [tell, extend, Outcome.textsIn]

theorem fail_tell (events : List Event) (failure : Failure) :
    (c.tell events).fail failure = c.extend { failures := [failure], events } := by
  simp [fail, tell, extend, Outcome.textsIn]

theorem push_tell (events : List Event) (dialect : Dialect) (text : String) :
    (c.tell events).push dialect text = c.extend { texts := [(dialect, text)], events } := by
  have pushed : ∀ target written, (if target = dialect then written ++ text else written) =
      written ++ Text.concat (Outcome.textsIn { texts := [(dialect, text)], events } target) := by
    intro target written
    by_cases same : target = dialect
    · simp [same, Outcome.textsIn]
    · simp [same, Ne.symm same, Outcome.textsIn]
  simp [push, tell, extend, pushed]

/-- If every step takes a conversion further by an outcome, all steps do by all outcomes. -/
theorem foldl_eq_extend {step : Conversion → α → Conversion} {outcome : α → Outcome}
    (h : ∀ c a, step c a = c.extend (outcome a)) (l : List α) :
    l.foldl step c = c.extend (Outcome.concat (l.map outcome)) := by
  induction l generalizing c with
  | nil => exact c.extend_empty.symm
  | cons a rest ih => rw [List.foldl_cons, ih, h, ← extend_append, List.map_cons, Outcome.concat]

theorem write_eq_extend (e : Entity) (dialect : Dialect) :
    c.write options app model e dialect = c.extend (written options app model e dialect) := by
  cases h : (dialect.render options e).outcome with
  | error error => simp only [write, written, h, fail_tell]
  | ok text => simp only [write, written, h, push_tell]

theorem addModel_eq_extend :
    c.addModel options dialects app model = c.extend (ofModel options app model dialects) := by
  cases h : (model.normalize app).outcome with
  | error error => simp only [addModel, h, fail_tell, ofModel_of_error options app model h]
  | ok e =>
    simp only [addModel, h, ofModel_of_ok options app model h, extend_append, ← tell_eq_extend]
    exact foldl_eq_extend _ (fun c dialect => c.write_eq_extend options app model e dialect) dialects

theorem addApp_eq_extend (scopes : List String) (app : App) :
    c.addApp options dialects scopes app =
      c.extend (Outcome.concat ((if app.label ∈ scopes then app.models.map (app.label, ·) else []).map fun p =>
        ofModel options p.1 p.2 dialects)) := by
  unfold addApp
  simp only [List.contains_iff_mem]
  split_ifs with inScope
  · rw [List.map_map]
    exact foldl_eq_extend _ (fun c model => c.addModel_eq_extend options app.label model dialects) app.models
  · exact c.extend_empty.symm

/-- Entries are passed over or added one after the other. -/
theorem foldl_addApp (scopes : List String) (apps : List App) :
    apps.foldl (fun c app => c.addApp options dialects scopes app) c =
      c.extend (Outcome.concat ((selected apps scopes).map fun p => ofModel options p.1 p.2 dialects)) := by
  induction apps generalizing c with
  | nil => exact c.extend_empty.symm
  | cons app rest ih =>
    rw [List.foldl_cons, ih, addApp_eq_extend, selected_cons, List.map_append, Outcome.concat_append, extend_append]

theorem foldl_checkScope (manifest : Manifest) (scopes : List String) :
    scopes.foldl (fun c scope => c.checkScope manifest.labels scope) c =
      c.extend { events := unknownApps manifest scopes } := by
  rw [← tell_eq_extend]
  induction scopes generalizing c with
  | nil => simp [unknownApps, tell]
  | cons scope rest ih =>
    have first : unknownApps manifest (scope :: rest) =
        (if manifest.labels.contains scope then [] else [.unknownApp scope]) ++ unknownApps manifest rest := by
      rw [unknownApps, List.filter_cons]
      cases manifest.labels.contains scope <;> rfl
    rw [List.foldl_cons, ih, checkScope, first]
    split_ifs with known
    · rfl
    · simp only [tell, List.append_assoc]

end Steps

/-! ### Targets -/

/-- A conversion before anything is written in the targets. -/
def requested (targets : List Dialect) : Conversion where
  texts := targets.map (·, "")

theorem output?_requested (targets : List Dialect) (dialect : Dialect) :
    (requested targets).output? dialect = if dialect ∈ targets then some "" else none := by
  unfold output? requested
  induction targets with
  | nil => rfl
  | cons target rest ih =>
    rw [List.map_cons, List.lookup_cons]
    by_cases same : dialect = target
    · simp [same]
    · have other : (dialect == target) = false := beq_eq_false_iff_ne.mpr same
      simp [other, same, ih]

/-- How far a conversion has come when it has asked for these targets. Each has a renderer. -/
def ready (targets : List Dialect) : Conversion × List Dialect := (requested targets, targets)

theorem request_of_mem {targets : List Dialect} {dialect : Dialect} (known : dialect ∈ targets) :
    request (ready targets) dialect = ready targets := by
  rw [request, ready, output?_requested]
  simp [known]

theorem request_of_not_mem {targets : List Dialect} {dialect : Dialect} (unknown : dialect ∉ targets) :
    request (ready targets) dialect = ready (targets ++ [dialect]) := by
  rw [request, ready, output?_requested]
  simp [unknown, ready, requested]

/-- A dialect becomes a target where it is asked for first. -/
theorem foldl_request (targets known : List Dialect) :
    targets.foldl request (ready known) = ready (known ++ (firstOccurrences targets).filter (· ∉ known)) := by
  induction targets generalizing known with
  | nil => simp [firstOccurrences]
  | cons target rest ih =>
    have left : ((firstOccurrences rest).filter (!· == target)).filter (· ∉ known) =
        (firstOccurrences rest).filter (· ∉ known ++ [target]) := by
      rw [List.filter_filter]
      refine List.filter_congr fun dialect _ => ?_
      by_cases same : dialect = target <;> simp [same]
    rw [List.foldl_cons, firstOccurrences]
    -- What is asked for again is passed over by the step and left out by the filter.
    by_cases asked : target ∈ known
    · have same : ∀ dialect, dialect ∈ known ++ [target] ↔ dialect ∈ known := by
        intro dialect
        rw [List.mem_append, or_iff_left_iff_imp, List.mem_singleton]
        exact fun h => h ▸ asked
      rw [request_of_mem asked, ih, List.filter_cons_of_neg (by simpa using asked), left]
      simp only [same]
    · rw [request_of_not_mem asked, ih, List.filter_cons_of_pos (by simpa using asked), left, ← List.append_cons]

/-- From the start, the targets are asked for in the order in which they first occur. -/
theorem foldl_request_empty (targets : List Dialect) :
    targets.foldl request ({}, []) = ready (firstOccurrences targets) := by
  have all : (firstOccurrences targets).filter (· ∉ ([] : List Dialect)) = firstOccurrences targets := by simp
  have asked := foldl_request targets []
  rwa [all] at asked

theorem output?_extend (c : Conversion) (o : Outcome) (dialect : Dialect) :
    (c.extend o).output? dialect = (c.output? dialect).map (· ++ Text.concat (o.textsIn dialect)) := by
  unfold output? extend
  induction c.texts with
  | nil => rfl
  | cons first rest ih =>
    obtain ⟨target, written⟩ := first
    rw [List.map_cons, List.lookup_cons, List.lookup_cons, ih]
    by_cases same : dialect = target
    · subst same
      simp
    · have other : (dialect == target) = false := beq_eq_false_iff_ne.mpr same
      simp [other]

@[simp] theorem failures_extend_requested (targets : List Dialect) (o : Outcome) :
    ((requested targets).extend o).failures = o.failures := rfl

@[simp] theorem events_extend_requested (targets : List Dialect) (o : Outcome) :
    ((requested targets).extend o).events = o.events := rfl

/-- **A conversion step by step.** Going through targets, scopes and entries comes to the same as starting with an empty
text for each target and going further by the outcome of the models in scope. -/
theorem run_eq_extend (manifest : Manifest) (scopes : List String) (targets : List Dialect) :
    run manifest scopes targets options =
      (requested (firstOccurrences targets)).extend (outcome manifest scopes targets options) := by
  unfold run
  rw [foldl_request_empty]
  show manifest.apps.foldl _ (scopes.foldl _ (requested (firstOccurrences targets))) = _
  rw [foldl_checkScope, foldl_addApp, outcome, extend_append]

end Conversion

end EntityGen
