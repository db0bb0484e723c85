import EntityGen.Proofs.Manifest.Decoding
import EntityGen.Proofs.Manifest.RoundTrip
import EntityGen.Proofs.Yaml.Records

/-!
Manifests in both formats. What is printed in JSON for a manifest whose texts are in ASCII is also a YAML document, and
read in either format it is the same manifest again (`formats_agree`), whatever the texts look like in YAML: between
quotes nothing in them is a mark, a comment, a number or null. -/
namespace EntityGen
open Text (IsBasic)

/-! ### Texts of manifests -/

def Field.texts (f : Field) : List String := f.name :: f.kind :: f.choices ++ labels.filterMap fun p => p.2 f

def Model.texts (m : Model) : List String := m.name :: m.table :: m.fields.flatMap Field.texts

def App.texts (a : App) : List String := a.label :: a.models.flatMap Model.texts

def Manifest.texts (m : Manifest) : List String := m.apps.flatMap App.texts

/-! ### Writing -/

theorem Field.common_toJson {f : Field} (basic : ∀ s ∈ f.texts, IsBasic s) :
    Yaml.Common f.toJson := by
  have text (s : String) (mem : s ∈ f.texts) : Yaml.Common (.ofString s) := Yaml.common_ofString (basic s mem)
  have name := text f.name (List.mem_cons_self ..)
  have kind := text f.kind (List.mem_cons_of_mem _ (List.mem_cons_self ..))
  have choices : Yaml.Common (.ofList (f.choices.map .ofString)) :=
    Yaml.common_ofList (List.forall_mem_map.mpr fun s hs => text s (by simp [texts, hs]))
  have count : Yaml.Common (.ofOption (fun n => .ofNat n.toNat) f.maxLength) :=
    Yaml.common_ofOption fun n _ => Yaml.common_ofNat n.toNat
  have label : ∀ p ∈ labels, Yaml.Common (.ofOption .ofString (p.2 f)) := by
    intro p hp
    refine Yaml.common_ofOption fun s hs => text s ?_
    exact List.mem_append_right _ (List.mem_filterMap.mpr ⟨p, hp, hs⟩)
  simp only [labels, List.forall_mem_cons] at label
  apply Yaml.common_ofMembers
  simp only [List.forall_mem_cons, List.not_mem_nil, false_implies, implies_true, and_true, Yaml.common_bool, name,
    kind, count, choices, label]
  decide

section
variable {m : Model} {a : App} {manifest : Manifest}

theorem Model.common_toJson (basic : ∀ s ∈ m.texts, IsBasic s) : Yaml.Common m.toJson := by
  have name : Yaml.Common (.ofString m.name) := Yaml.common_ofString (basic _ (by simp [texts]))
  have table : Yaml.Common (.ofString m.table) := Yaml.common_ofString (basic _ (by simp [texts]))
  have fields : Yaml.Common (.ofList (m.fields.map Field.toJson)) := by
    refine Yaml.common_ofList (List.forall_mem_map.mpr fun f hf => Field.common_toJson fun s hs => basic s ?_)
    simp only [texts, List.mem_cons, List.mem_flatMap]
    exact .inr (.inr ⟨f, hf, hs⟩)
  apply Yaml.common_ofMembers
  simp only [List.forall_mem_cons, List.not_mem_nil, false_implies, implies_true, and_true, name, table, fields]
  decide

theorem App.common_toJson (basic : ∀ s ∈ a.texts, IsBasic s) : Yaml.Common a.toJson := by
  have label : Yaml.Common (.ofString a.label) := Yaml.common_ofString (basic _ (by simp [texts]))
  have models : Yaml.Common (.ofList (a.models.map Model.toJson)) := by
    refine Yaml.common_ofList (List.forall_mem_map.mpr fun m hm => Model.common_toJson fun s hs => basic s ?_)
    simp only [texts, List.mem_cons, List.mem_flatMap]
    exact .inr ⟨m, hm, hs⟩
  apply Yaml.common_ofMembers
  simp only [List.forall_mem_cons, List.not_mem_nil, false_implies, implies_true, and_true, label, models]
  decide

/-- What is printed for a manifest is a YAML document. -/
theorem Manifest.parse?_render (basic : ∀ s ∈ manifest.texts, IsBasic s) :
    Yaml.parse? (Json.render manifest.toJson) = some (.ofJson manifest.toJson) := by
  have apps : Yaml.Common (.ofList (manifest.apps.map App.toJson)) := by
    refine Yaml.common_ofList (List.forall_mem_map.mpr fun a ha => App.common_toJson fun s hs => basic s ?_)
    exact List.mem_flatMap.mpr ⟨a, ha, hs⟩
  apply Yaml.parse?_render
  simp only [List.forall_mem_cons, List.not_mem_nil, false_implies, implies_true, and_true, apps]
  decide

end

/-! ### Reading -/

section
variable (anchors : Yaml.Anchors)

theorem Field.record_ofJson (f : Field) :
    (Yaml.reader anchors).record (shape (Yaml.reader anchors)) (.ofJson f.toJson) = .ok f := by
  have text : ∀ s : Option String,
      (Yaml.reader anchors).optional (Yaml.reader anchors).text (.ofJson (.ofOption .ofString s)) = .ok s :=
    Yaml.readOptional_ofOption anchors (Yaml.readText_ofString anchors) (Yaml.isNull_ofString anchors)
  have count : ∀ n : Option UInt32, (Yaml.reader anchors).optional (Yaml.reader anchors).count
      (.ofJson (.ofOption (fun n => .ofNat n.toNat) n)) = .ok n :=
    Yaml.readOptional_ofOption anchors (Yaml.readCount_ofNat anchors) fun n => Yaml.isNull_ofNat anchors n.toNat
  have choices := Yaml.readList_ofList anchors (Yaml.readText_ofString anchors)
  apply Yaml.readRecord_ofMembers anchors (lawful_shape _) rfl
  simp only [shape, List.map_cons, List.map_nil, Shape.place, Attribute.of, Except.map, Yaml.readText_ofString,
    Yaml.readFlag_bool, text, count, choices]

theorem Model.record_ofJson (m : Model) :
    (Yaml.reader anchors).record (shape (Yaml.reader anchors)) (.ofJson m.toJson) = .ok m := by
  apply Yaml.readRecord_ofMembers anchors (lawful_shape _) rfl
  simp only [shape, List.map_cons, List.map_nil, Shape.place, Attribute.of, Except.map, Yaml.readText_ofString,
    Yaml.readList_ofList anchors (Field.record_ofJson anchors)]

theorem App.record_ofJson (a : App) :
    (Yaml.reader anchors).record (shape (Yaml.reader anchors)) (.ofJson a.toJson) = .ok a := by
  apply Yaml.readRecord_ofMembers anchors (lawful_shape _) rfl
  simp only [shape, List.map_cons, List.map_nil, Shape.place, Attribute.of, Except.map, Yaml.readText_ofString,
    Yaml.readList_ofList anchors (Model.record_ofJson anchors)]

theorem Manifest.record_ofJson (m : Manifest) :
    (Yaml.reader anchors).record (shape (Yaml.reader anchors)) (.ofJson m.toJson) = .ok m := by
  apply Yaml.readRecord_ofMembers anchors (lawful_shape _) rfl
  simp only [shape, List.map_cons, List.map_nil, Shape.place, Attribute.of, Except.map,
    Yaml.readList_ofList anchors (App.record_ofJson anchors)]

end

/-! ### Documents -/

namespace Manifest

/-- **Both formats agree on what is printed in JSON.** -/
theorem formats_agree (m : Manifest) (basic : ∀ s ∈ m.texts, IsBasic s) :
    parse .json (Json.render m.toJson) = .ok m ∧ parse .yaml (Json.render m.toJson) = .ok m := by
  constructor
  · exact (parse_eq_ok_iff m.written_toJson.mem_documents).mpr m.record_toJson
  · rw [parse, Yaml.readDocument, parse?_render basic]
    show ((Yaml.reader _).record (shape (Yaml.reader _)) _).mapError _ = _
    rw [record_ofJson]
    rfl

/-- Texts that are not what they look like in YAML: null, a flag, a number, a key, a comment, a document, blanks. -/
theorem formats_agree_awkward :
    let field : Field :=
      { name := "null", kind := "true", choices := ["", "12", "a: b", " # c ", "\"\\\""], column := some "---",
        maxLength := some 0, relatedModel := some "\x7b[,]\x7d", onDelete := some "~" }
    let m : Manifest := ⟨[⟨"&a *a", [⟨"!!str", "- x", [field, field]⟩, ⟨"%", "@|>'", []⟩]⟩, ⟨"&a *a", []⟩]⟩
    (∀ s ∈ m.texts, IsBasic s) ∧ parse .json (Json.render m.toJson) = .ok m ∧
      parse .yaml (Json.render m.toJson) = .ok m := by
  intro field m
  have basic : ∀ s ∈ m.texts, IsBasic s := by decide
  exact ⟨basic, formats_agree m basic⟩

end Manifest

end EntityGen
