import EntityGen.Proofs.Conversion.Accounting
import EntityGen.Proofs.Entity.Becomes
import EntityGen.Proofs.Manifest.Views
import EntityGen.Proofs.Render.Go.Members

/-!
A conversion and the views of its source. A conversion looks for the models in scope itself, without asking for
those under a label; what it finds under one label are these very models (`selected_singleton`). That an app is
unknown is told where the source has no models for it, and of no model (`unknownApp_not_mem_ofModel`). `views_agree`
puts the labels, the models under them and the conversion of one app side by side. -/
namespace EntityGen

/-! ### Unknown apps -/

theorem Model.unknownApp_not_mem_normalize (model : Model) (app other : String) :
    .unknownApp other ∉ (model.normalize app).events := by
  intro told
  rcases Traced.mem_events_bind told with told | ⟨parts, -, told⟩
  · obtain ⟨field, -, told⟩ := Traced.mem_events_forEach told
    rw [Field.events_part, Option.mem_toList, Field.omission?] at told
    split_ifs at told <;> exact nomatch told
  · exact nomatch told

theorem Dialect.unknownApp_not_mem_render (options : Options) (e : Entity) (d : Dialect) (other : String) :
    .unknownApp other ∉ (d.render options e).events := by
  intro told
  cases d with
  | kotlin => exact nomatch told
  | go =>
    rcases Traced.mem_events_bind told with told | ⟨members, -, told⟩
    · obtain ⟨item, -, told⟩ := Traced.mem_events_forEach told
      rw [Go.events_members, Option.mem_toList] at told
      unfold Go.implied? at told
      split at told
      · split_ifs at told
        exact nomatch told
      · exact nomatch told
      · exact nomatch told
    · exact nomatch told

namespace Conversion
variable (options : Options)

theorem events_written (app : String) (model : Model) (e : Entity) (d : Dialect) :
    (written options app model e d).events = (d.render options e).events := by
  cases h : (d.render options e).outcome <;> simp [written, h]

theorem mem_events_concat {outcomes : List Outcome} {event : Event}
    (told : event ∈ (Outcome.concat outcomes).events) : ∃ outcome ∈ outcomes, event ∈ outcome.events := by
  induction outcomes with
  | nil => exact nomatch told
  | cons first rest ih =>
    rcases List.mem_append.mp told with told | told
    · exact ⟨first, List.mem_cons_self .., told⟩
    · obtain ⟨outcome, mem, told⟩ := ih told
      exact ⟨outcome, List.mem_cons_of_mem _ mem, told⟩

/-- What is told of a model is not about apps. -/
theorem unknownApp_not_mem_ofModel (app : String) (model : Model) (dialects : List Dialect) (other : String) :
    .unknownApp other ∉ (ofModel options app model dialects).events := by
  intro told
  cases h : (model.normalize app).outcome with
  | error error =>
    rw [ofModel_of_error options app model h] at told
    exact model.unknownApp_not_mem_normalize app other told
  | ok e =>
    rw [ofModel_of_ok options app model h, Outcome.events_append] at told
    rcases List.mem_append.mp told with told | told
    · rcases List.mem_append.mp told with told | told
      · exact model.unknownApp_not_mem_normalize app other told
      · exact nomatch List.mem_singleton.mp told
    · obtain ⟨outcome, mem, told⟩ := mem_events_concat told
      obtain ⟨d, -, rfl⟩ := List.mem_map.mp mem
      rw [events_written] at told
      exact d.unknownApp_not_mem_render options e other told

variable (manifest : Manifest) (scopes : List String) (targets : List Dialect)

/-- The apps that are told to be unknown are those in scope without a label. -/
theorem unknownApp_mem_run {app : String} :
    .unknownApp app ∈ (run manifest scopes targets options).events ↔ app ∈ scopes ∧ app ∉ manifest.labels := by
  rw [run_eq_extend, events_extend_requested, outcome, Outcome.events_append, List.mem_append, or_iff_left]
  · simp [unknownApps]
  · intro told
    obtain ⟨outcome, mem, told⟩ := mem_events_concat told
    obtain ⟨p, -, rfl⟩ := List.mem_map.mp mem
    exact unknownApp_not_mem_ofModel options _ _ _ _ told

/-! ### One app -/

/-- Under one label a conversion finds the models under that label. -/
theorem selected_singleton (label : String) :
    selected manifest.apps [label] = ((manifest.models? label).getD []).map (label, ·) := by
  have inScope : (fun app : App => [label].contains app.label) = (·.label == label) := by
    funext app
    rw [List.contains_cons, List.contains_nil, Bool.or_false]
  rw [Manifest.getD_models?, List.map_flatMap, selected, inScope]
  refine List.flatMap_congr fun app ha => ?_
  have same := (List.mem_filter.mp ha).2
  rw [beq_iff_eq.mp same]

/-- A source whose only entry has the models under a label, if there are any. -/
def oneApp (label : String) : Manifest := ⟨[⟨label, (manifest.models? label).getD []⟩]⟩

theorem selected_oneApp (label : String) :
    selected (oneApp manifest label).apps [label] = selected manifest.apps [label] := by
  rw [oneApp, selected_entry, if_pos (List.mem_singleton.mpr rfl), selected_singleton]

theorem unknownApps_singleton (label : String) :
    unknownApps manifest [label] = if manifest.models? label = none then [.unknownApp label] else [] := by
  rw [Manifest.models?_eq]
  by_cases h : label ∈ manifest.labels <;> simp [unknownApps, h]

/-- The only entry of a source has a known label, also where it has no models. -/
theorem unknownApps_oneApp (label : String) : unknownApps (oneApp manifest label) [label] = [] := by
  have known : label ∈ (oneApp manifest label).labels := Manifest.mem_labels.mpr ⟨_, List.mem_singleton.mpr rfl, rfl⟩
  simp [unknownApps, known]

/-- **The views of a source agree.** Labels are the labels of the entries, each listed once and where it first
occurs. A label has models exactly if it is listed, those of its entries in their order; together the labels have
as many models as the entries. A conversion of one app gives what the models under its label give as the only entry of a
source: the same outputs, failures and events, but that before these the app is told to be unknown exactly if it
has no models. -/
theorem views_agree :
    (manifest.labels.Nodup ∧ (∀ label, label ∈ manifest.labels ↔ ∃ app ∈ manifest.apps, app.label = label) ∧
      manifest.labels.Pairwise fun first second =>
        (manifest.apps.map (·.label)).idxOf first < (manifest.apps.map (·.label)).idxOf second) ∧
    (∀ label, manifest.models? label =
      if label ∈ manifest.labels then
        some ((manifest.apps.filter (·.label == label)).flatMap (·.models))
      else none) ∧
    (manifest.labels.map fun label => ((manifest.models? label).getD []).length).sum =
      (manifest.apps.map (·.models.length)).sum ∧
    ∀ (label : String) (targets : List Dialect) (options : Options),
      let whole := run manifest [label] targets options
      let alone := run (oneApp manifest label) [label] targets options
      (∀ d, whole.output? d = alone.output? d) ∧ whole.outputs = alone.outputs ∧
      whole.failures = alone.failures ∧
      whole.events = (if manifest.models? label = none then [.unknownApp label] else []) ++ alone.events ∧
      (.unknownApp label ∈ whole.events ↔ manifest.models? label = none) := by
  refine ⟨⟨nodup_firstOccurrences _, fun label => Manifest.mem_labels, pairwise_firstOccurrences _⟩,
    manifest.models?_eq, manifest.sum_length_models?, fun label targets options => ?_⟩
  intro whole alone
  have outputs : ∀ d, whole.output? d = alone.output? d := by
    intro d
    rw [output?_run, output?_run, selected_oneApp]
  have unknown : manifest.models? label = none ↔ label ∉ manifest.labels := by
    rw [Manifest.models?_eq]
    simp
  refine ⟨outputs, ?_, ?_, ?_, ?_⟩
  · simp only [Conversion.outputs, outputs]
  · rw [failures_run, failures_run, selected_oneApp]
  · show (run manifest [label] targets options).events = _ ++
      (run (oneApp manifest label) [label] targets options).events
    rw [run_eq_extend, run_eq_extend, events_extend_requested, events_extend_requested, outcome, outcome,
      selected_oneApp, Outcome.events_append, Outcome.events_append, unknownApps_singleton, unknownApps_oneApp,
      List.nil_append]
  · rw [unknownApp_mem_run, unknown]
    exact and_iff_right (List.mem_singleton.mpr rfl)

end Conversion

end EntityGen
