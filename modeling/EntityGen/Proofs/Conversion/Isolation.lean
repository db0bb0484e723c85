import EntityGen.Proofs.Conversion.Accounting
import Mathlib.Data.Option.NAry
import Mathlib.Logic.Relation

/-!
Models in isolation. A conversion carries nothing over from one model to the next. Two sources one after the other
are converted to what each is converted to alone (`output?_append`, `failures_append`), and it makes no difference
into how many entries of the same label the models of an app are cut (`Manifest.Regrouped.run_eq`). Both together
tell what one model adds to the conversion of a source (`Gap`), and so what is lost with a model that fails:
`models_in_isolation`. -/
namespace EntityGen

/-- The entries of one source and then those of another. -/
instance : Append Manifest := ⟨fun first second => ⟨first.apps ++ second.apps⟩⟩

@[simp] theorem Manifest.apps_append (first second : Manifest) : (first ++ second).apps = first.apps ++ second.apps :=
  rfl

/-- In the second list an entry of the first is cut into several with the same label. -/
inductive App.Cut : List App → List App → Prop
  | entry (before : List App) (label : String) (pieces : List (List Model)) (some : pieces ≠ [])
      (after : List App) :
    Cut (before ++ ⟨label, pieces.flatten⟩ :: after) (before ++ pieces.map (App.mk label) ++ after)

/-- Entries are cut, or entries with the same label that follow one another are put together, any number of times. -/
def Manifest.Regrouped : Manifest → Manifest → Prop := Relation.EqvGen fun m₁ m₂ => App.Cut m₁.apps m₂.apps

namespace Conversion
variable {scopes : List String} {targets : List Dialect} {options : Options}

/-! ### Sources one after the other -/

theorem output?_append (first second : Manifest) (d : Dialect) :
    (run (first ++ second) scopes targets options).output? d =
      Option.map₂ (· ++ ·) ((run first scopes targets options).output? d)
        ((run second scopes targets options).output? d) := by
  rw [output?_run, output?_run, output?_run, Manifest.apps_append, selected_append, List.filterMap_append,
    Text.concat_append]
  by_cases target : d ∈ targets
  · rw [if_pos target, if_pos target, if_pos target, Option.map₂_some_some]
  · rw [if_neg target, if_neg target, if_neg target, Option.map₂_none_left]

theorem failures_append (first second : Manifest) :
    (run (first ++ second) scopes targets options).failures =
      (run first scopes targets options).failures ++ (run second scopes targets options).failures := by
  rw [failures_run, failures_run, failures_run, Manifest.apps_append, selected_append, List.flatMap_append]

/-! ### Entries cut and put together -/

/-- A conversion knows no more of a source than its labels and the models in scope. -/
theorem run_congr {m₁ m₂ : Manifest} (labels : ∀ label, label ∈ m₁.labels ↔ label ∈ m₂.labels)
    (models : selected m₁.apps scopes = selected m₂.apps scopes) :
    run m₁ scopes targets options = run m₂ scopes targets options := by
  have known : ∀ label, m₁.labels.contains label = m₂.labels.contains label := by
    intro label
    rw [Bool.eq_iff_iff, List.contains_iff_mem, List.contains_iff_mem, labels]
  rw [run_eq_extend, run_eq_extend]
  simp only [outcome, unknownApps, known, models]

/-- In scope or not, an entry counts as its pieces do. -/
theorem selected_pieces (label : String) (pieces : List (List Model)) (scopes : List String) :
    selected (pieces.map (App.mk label)) scopes = selected [⟨label, pieces.flatten⟩] scopes := by
  induction pieces with
  | nil =>
    rw [selected_entry, List.flatten_nil, List.map_nil, List.map_nil, ite_self]
    rfl
  | cons piece rest ih =>
    have first : (piece :: rest).map (App.mk label) = [⟨label, piece⟩] ++ rest.map (App.mk label) := rfl
    rw [first, selected_append, ih, selected_entry, selected_entry, selected_entry]
    by_cases h : label ∈ scopes
    · rw [if_pos h, if_pos h, if_pos h, List.flatten_cons, List.map_append]
    · rw [if_neg h, if_neg h, if_neg h, List.append_nil]

end Conversion

namespace App.Cut
variable {l₁ l₂ : List App}

theorem selected_eq (h : App.Cut l₁ l₂) (scopes : List String) :
    Conversion.selected l₁ scopes = Conversion.selected l₂ scopes := by
  cases h with
  | entry before label pieces some after =>
    have whole : before ++ ⟨label, pieces.flatten⟩ :: after = before ++ [⟨label, pieces.flatten⟩] ++ after :=
      List.append_cons ..
    rw [whole]
    simp only [Conversion.selected_append, Conversion.selected_pieces]

/-- There is at least one piece, so the label is still there. -/
theorem mem_labels (h : App.Cut l₁ l₂) (label : String) :
    label ∈ (Manifest.mk l₁).labels ↔ label ∈ (Manifest.mk l₂).labels := by
  cases h with
  | entry before own pieces some after =>
    have held : ∀ apps : List App, label ∈ (Manifest.mk apps).labels ↔ label ∈ apps.map (·.label) := by
      intro apps
      rw [Manifest.mem_labels, List.mem_map]
    have labels : (pieces.map (App.mk own)).map (·.label) = pieces.map fun _ => own := List.map_map
    have piece : label ∈ pieces.map (fun _ => own) ↔ label = own := by
      rw [List.map_const', List.mem_replicate]
      exact and_iff_right (mt List.length_eq_zero_iff.mp some)
    rw [held, held, List.map_append, List.map_append, List.map_append, labels, List.map_cons, List.mem_append,
      List.mem_append, List.mem_append, List.mem_cons, piece, or_assoc]

end App.Cut

/-- However the entries are grouped, the conversion is the same, with the same failures and events. -/
theorem Manifest.Regrouped.run_eq {m₁ m₂ : Manifest} (h : m₁.Regrouped m₂) (scopes : List String)
    (targets : List Dialect) (options : Options) :
    Conversion.run m₁ scopes targets options = Conversion.run m₂ scopes targets options := by
  induction h with
  | rel _ _ cut => exact Conversion.run_congr cut.mem_labels (cut.selected_eq scopes)
  | refl _ => rfl
  | symm _ _ _ ih => exact ih.symm
  | trans _ _ _ _ _ first second => exact first.trans second

/-! ### One model among others -/

/-- A source with a place for one more model. -/
structure Gap where
  before : List App
  /-- The label of the entry that the place is in. -/
  label : String
  earlier : List Model
  later : List Model
  after : List App

namespace Gap
variable (gap : Gap) (model : Model)

/-- The source up to the place. -/
def front : Manifest := ⟨gap.before ++ [⟨gap.label, gap.earlier⟩]⟩

/-- The source from the place on. -/
def back : Manifest := ⟨⟨gap.label, gap.later⟩ :: gap.after⟩

/-- A model of that label as a source of its own. -/
def alone : Manifest := ⟨[⟨gap.label, [model]⟩]⟩

/-- The source with the model in the place. -/
def filled : Manifest := ⟨gap.before ++ ⟨gap.label, gap.earlier ++ model :: gap.later⟩ :: gap.after⟩

/-- The entry with the place can be cut before and behind it. -/
theorem regrouped_filled : (gap.filled model).Regrouped (gap.front ++ gap.alone model ++ gap.back) := by
  have cut := App.Cut.entry gap.before gap.label [gap.earlier, [model], gap.later] nofun gap.after
  have whole : gap.before ++ ⟨gap.label, [gap.earlier, [model], gap.later].flatten⟩ :: gap.after =
      (gap.filled model).apps := by
    simp [filled]
  have parts : gap.before ++ [gap.earlier, [model], gap.later].map (App.mk gap.label) ++ gap.after =
      (gap.front ++ gap.alone model ++ gap.back).apps := by
    show _ = gap.before ++ [_] ++ [_] ++ _ :: gap.after
    simp
  rw [whole, parts] at cut
  exact .rel _ _ cut

end Gap

namespace Conversion

theorem exists_output?_run (manifest : Manifest) (scopes : List String) {targets : List Dialect}
    (options : Options) {d : Dialect} (target : d ∈ targets) :
    ∃ text, (run manifest scopes targets options).output? d = some text := by
  rw [output?_run, if_pos target]
  exact ⟨_, rfl⟩

/-- Alone, a model that has no text in a dialect leaves the output empty. -/
theorem output?_alone_of_unwritten {gap : Gap} {model : Model} {options : Options} {d : Dialect}
    (unwritten : textOf? options gap.label model d = none) (scopes : List String) {targets : List Dialect}
    (target : d ∈ targets) : (run (gap.alone model) scopes targets options).output? d = some "" := by
  have none_left : (selected (gap.alone model).apps scopes).filterMap
      (fun p => textOf? options p.1 p.2 d) = [] := by
    rw [Gap.alone, selected_entry, List.filterMap_eq_nil_iff]
    intro p hp
    split at hp
    · rw [List.mem_map] at hp
      obtain ⟨m, hm, rfl⟩ := hp
      rw [List.mem_singleton.mp hm]
      exact unwritten
    · exact nomatch hp
  rw [output?_run, if_pos target, none_left]
  rfl

/-- **Models are converted in isolation.** Of two sources one after the other, the outputs and the failures are
those of the first and then those of the second. Into how many entries of its label the models of an app are
cut makes no difference to outputs, failures or events. So a model adds to the failures of a source what it has alone,
between those of the models before it and behind it; and if it is replaced by one that has no text in a dialect, the
output loses the text of that one model. -/
theorem models_in_isolation (scopes : List String) (targets : List Dialect) (options : Options) :
    let convert manifest := run manifest scopes targets options
    (∀ first second : Manifest,
      (∀ d, (convert (first ++ second)).output? d =
        Option.map₂ (· ++ ·) ((convert first).output? d) ((convert second).output? d)) ∧
      (convert (first ++ second)).failures = (convert first).failures ++ (convert second).failures) ∧
    (∀ m₁ m₂ : Manifest, m₁.Regrouped m₂ → convert m₁ = convert m₂) ∧
    ∀ (gap : Gap) (model other : Model),
      ((convert (gap.filled model)).failures =
        (convert gap.front).failures ++ (convert (gap.alone model)).failures ++ (convert gap.back).failures) ∧
      ∀ d ∈ targets, textOf? options gap.label other d = none →
        ∃ before own after, (convert gap.front).output? d = some before ∧
          (convert (gap.alone model)).output? d = some own ∧ (convert gap.back).output? d = some after ∧
          (convert (gap.filled model)).output? d = some (before ++ own ++ after) ∧
          (convert (gap.filled other)).output? d = some (before ++ after) := by
  intro convert
  refine ⟨fun first second => ⟨output?_append first second, failures_append first second⟩,
    fun m₁ m₂ regrouped => regrouped.run_eq scopes targets options, fun gap model other => ⟨?_, ?_⟩⟩
  · show (run (gap.filled model) scopes targets options).failures = _
    rw [(gap.regrouped_filled model).run_eq, failures_append, failures_append]
  · intro d target unwritten
    obtain ⟨before, front⟩ := exists_output?_run gap.front scopes options target
    obtain ⟨own, alone⟩ := exists_output?_run (gap.alone model) scopes options target
    obtain ⟨after, back⟩ := exists_output?_run gap.back scopes options target
    refine ⟨before, own, after, front, alone, back, ?_, ?_⟩
    · show (run (gap.filled model) scopes targets options).output? d = _
      rw [(gap.regrouped_filled model).run_eq, output?_append, output?_append, front, alone, back]
      rfl
    · show (run (gap.filled other) scopes targets options).output? d = _
      rw [(gap.regrouped_filled other).run_eq, output?_append, output?_append, front,
        output?_alone_of_unwritten unwritten scopes target, back]
      simp

end Conversion

/-- A shop with a place between its orders and its customers. -/
def Gap.shop : Gap where
  before := [⟨"blog", []⟩]
  label := "shop"
  earlier := [⟨"Order", "shop_order", [{ name := "id", kind := "AutoField", primaryKey := true }]⟩]
  later := [⟨"Customer", "shop_customer", [{ name := "name", kind := "TextField" }]⟩]
  after := [⟨"shop", []⟩]

/-- What is sold in the shop. -/
def Model.ware : Model := ⟨"Ware", "shop_ware", [{ name := "price", kind := "DecimalField" }]⟩

/-- The same with a relation that is of no shape. -/
def Model.shapelessWare : Model :=
  ⟨"Ware", "shop_ware", [{ name := "price", kind := "DecimalField" }, { name := "seller", isRelation := true }]⟩

namespace Conversion

/-- With wares that fail, the shop still has its orders and its customers. -/
theorem models_in_isolation_shop :
    let convert manifest := run manifest ["shop"] [.kotlin] {}
    convert (Gap.shop.filled .ware) = convert (Gap.shop.front ++ Gap.shop.alone .ware ++ Gap.shop.back) ∧
      textOf? {} "shop" .shapelessWare .kotlin = none ∧
      ∃ before own after, own ≠ "" ∧
        (convert (Gap.shop.filled .ware)).output? .kotlin = some (before ++ own ++ after) ∧
        (convert (Gap.shop.filled .shapelessWare)).output? .kotlin = some (before ++ after) := by
  intro convert
  obtain ⟨-, regrouped, replaced⟩ := models_in_isolation ["shop"] [.kotlin] {}
  have unwritten : textOf? {} "shop" .shapelessWare .kotlin = none := by decide +kernel
  have written : (convert (Gap.shop.alone .ware)).output? .kotlin ≠ some "" := by decide +kernel
  obtain ⟨-, texts⟩ := replaced .shop .ware .shapelessWare
  obtain ⟨before, own, after, -, alone, -, whole, less⟩ := texts .kotlin (by decide) unwritten
  refine ⟨regrouped _ _ (Gap.shop.regrouped_filled .ware), unwritten, before, own, after, ?_, whole, less⟩
  rintro rfl
  exact written alone

end Conversion

end EntityGen
