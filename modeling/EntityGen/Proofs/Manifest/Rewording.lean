import EntityGen.Proofs.Json.Rewording
import EntityGen.Proofs.Manifest.RoundTrip

/-!
Manifests in other words. In every record of a manifest, at whatever depth, members can change places, unknown ones
can come and go, and defaults can be said or left unsaid: a document with such changes is read as the same manifest
(`parse_of_reworded`). The name of an unknown member has to be a text, though. An escape of half a surrogate pair
is none, and a document with such a name is refused (`unpaired_name_refused`), while in the value of an unknown
member it passes. -/
namespace EntityGen

/-! ### Changes at every level -/

/-- One change in the words of a field. No value in it is a record. -/
def Field.Reworded : Json → Json → Prop :=
  Json.Reworded (shape Json.reader) defaults fun _ _ _ => False

/-- One change in the words of a model or of one of its fields. -/
def Model.Reworded : Json → Json → Prop :=
  Json.Reworded (shape Json.reader) defaults fun key value other =>
    key = "fields" ∧ Json.ItemReworded Field.Reworded value other

/-- One change in the words of an app or of one of its models. -/
def App.Reworded : Json → Json → Prop :=
  Json.Reworded (shape Json.reader) defaults fun key value other =>
    key = "models" ∧ Json.ItemReworded Model.Reworded value other

/-- One change in the words of a manifest or of one of its apps. -/
def Manifest.Reworded : Json → Json → Prop :=
  Json.Reworded (shape Json.reader) defaults fun key value other =>
    key = "apps" ∧ Json.ItemReworded App.Reworded value other

section
variable {value other : Json}

theorem Field.Reworded.alike (h : Reworded value other) :
    Json.Alike (Json.reader.record (shape Json.reader)) value other :=
  Json.Reworded.alike (lawful_shape Json.reader) neutral_of_mem_defaults nofun h

theorem Model.Reworded.alike (h : Reworded value other) :
    Json.Alike (Json.reader.record (shape Json.reader)) value other := by
  refine Json.Reworded.alike (lawful_shape Json.reader) neutral_of_mem_defaults ?_ h
  rintro _ _ _ ⟨rfl, fields⟩
  exact ⟨_, rfl, (fields.alike Field.Reworded.alike).map _⟩

theorem App.Reworded.alike (h : Reworded value other) :
    Json.Alike (Json.reader.record (shape Json.reader)) value other := by
  refine Json.Reworded.alike (lawful_shape Json.reader) neutral_of_mem_defaults ?_ h
  rintro _ _ _ ⟨rfl, models⟩
  exact ⟨_, rfl, (models.alike Model.Reworded.alike).map _⟩

theorem Manifest.Reworded.alike (h : Reworded value other) :
    Json.Alike (Json.reader.record (shape Json.reader)) value other := by
  refine Json.Reworded.alike (lawful_shape Json.reader) neutral_of_mem_defaults ?_ h
  rintro _ _ _ ⟨rfl, apps⟩
  exact ⟨_, rfl, (apps.alike App.Reworded.alike).map _⟩

end

/-! ### Documents -/

namespace Manifest

/-- **A manifest in other words is the same manifest.** -/
theorem parse_of_reworded {m : Manifest} {value other : Json} {text otherText : String}
    (document : text.toList ∈ Json.documents value) (otherDocument : otherText.toList ∈ Json.documents other)
    (edits : Relation.EqvGen Reworded value other) (read : parse .json text = .ok m) :
    parse .json otherText = .ok m := by
  rw [parse_eq_ok_iff otherDocument]
  rw [parse_eq_ok_iff document] at read
  exact (Json.alike_of_eqvGen Reworded.alike edits m).mp read

/-- That an app has no models goes without saying. It is said here, and a note comes in before it. -/
theorem parse_of_reworded_note :
    let m : Manifest := ⟨[⟨"shop", []⟩]⟩
    let text := "\x7b\"apps\":[\x7b\"label\":\"shop\"\x7d]\x7d"
    let otherText := "\x7b\"note\":[1,\x7b\x7d],\"apps\":[\x7b\"label\":\"shop\",\"models\":[]\x7d]\x7d"
    parse .json text = .ok m ∧ parse .json otherText = .ok m := by
  intro m text otherText
  let label := ("label", Json.ofString "shop")
  let models := ("models", Json.ofList [])
  let note := ("note", Json.ofList [.ofNat 1, .ofMembers []])
  let apps (app : Json) := ("apps", Json.ofList [app])
  have noted : note.2.Written := by
    simp [note, Json.written_ofList, Json.written_ofNat, Json.written_ofMembers]
  have app : (Json.ofMembers [label]).Written := by
    simp [label, Json.written_ofMembers, Json.written_ofString]
  have otherApp : (Json.ofMembers [label, models]).Written := by
    simp [label, models, Json.written_ofMembers, Json.written_ofString, Json.written_ofList]
  have document : text.toList ∈ Json.documents (.ofMembers [apps (.ofMembers [label])]) := by
    have shown : text = Json.render (.ofMembers [apps (.ofMembers [label])]) := rfl
    rw [shown]
    refine Json.Written.mem_documents (Json.written_ofMembers ?_)
    simp [apps, app, Json.written_ofList]
  have otherDocument : otherText.toList ∈
      Json.documents (.ofMembers [note, apps (.ofMembers [label, models])]) := by
    have shown : otherText = Json.render (.ofMembers [note, apps (.ofMembers [label, models])]) := rfl
    rw [shown]
    refine Json.Written.mem_documents (Json.written_ofMembers ?_)
    simp [apps, otherApp, noted, Json.written_ofList]
  have read : parse .json text = .ok m := (parse_eq_ok_iff document).mpr rfl
  refine ⟨read, parse_of_reworded document otherDocument ?_ read⟩
  have said : App.Reworded (.ofMembers [label]) (.ofMembers [models, label]) :=
    .default (Json.Literal.text?_ofString "models") (List.mem_singleton_self _) (by decide)
  have moved : App.Reworded (.ofMembers [models, label]) (.ofMembers [label, models]) :=
    .reordered (.swap ..)
  have inside {app other : Json} (h : App.Reworded app other) :
      Reworded (.ofMembers [apps app]) (.ofMembers [apps other]) :=
    .inside (Json.Literal.text?_ofString "apps") ⟨rfl, @Json.ItemReworded.item _ [] [] _ _ h⟩
  have added : Reworded (.ofMembers [apps (.ofMembers [label, models])])
      (.ofMembers [note, apps (.ofMembers [label, models])]) :=
    .unknown (Json.Literal.text?_ofString "note") (by decide) ⟨_, noted⟩
  exact .trans _ _ _ (.rel _ _ (inside said)) (.trans _ _ _ (.rel _ _ (inside moved)) (.rel _ _ added))

/-- The names that come in must be texts: what holds of unknown members does not hold of a name with an escape of
half a surrogate pair. -/
theorem unpaired_name_refused :
    ¬ ∀ (members : List (Json.Literal × Json)) (literal : Json.Literal) (added : Json) (text otherText : String)
        (m : Manifest),
      (∀ key ∈ (shape Json.reader).keys, literal.text? ≠ some key) →
      text.toList ∈ Json.documents (.object members none) →
      otherText.toList ∈ Json.documents (.object ((literal, added) :: members) none) →
      parse .json text = .ok m → parse .json otherText = .ok m := by
  intro holds
  let apps := (Json.Literal.ofString "apps", Json.ofList [])
  let unpaired : Json.Literal := [0xD800]
  have noApps : (Json.ofList []).Written := Json.written_ofList nofun
  have document : "\x7b\"apps\":[]\x7d".toList ∈ Json.documents (.object [apps] none) := by
    have shown : "\x7b\"apps\":[]\x7d" = Json.render (.object [apps] none) := rfl
    rw [shown]
    exact (Json.written_object (List.forall_mem_singleton.mpr ⟨Json.lt_of_mem_ofString, noApps⟩)).mem_documents
  have otherDocument : "\x7b\"\\ud800\":1,\"apps\":[]\x7d".toList ∈
      Json.documents (.object [(unpaired, .ofNat 1), apps] none) := by
    have shown : "\x7b\"\\ud800\":1,\"apps\":[]\x7d" = Json.render (.object [(unpaired, .ofNat 1), apps] none) :=
      rfl
    rw [shown]
    refine (Json.written_object (List.forall_mem_cons.mpr ⟨⟨by decide, Json.written_ofNat 1⟩, ?_⟩)).mem_documents
    exact List.forall_mem_singleton.mpr ⟨Json.lt_of_mem_ofString, noApps⟩
  have read : parse .json "\x7b\"apps\":[]\x7d" = .ok ⟨[]⟩ := (parse_eq_ok_iff document).mpr rfl
  have same := (parse_eq_ok_iff otherDocument).mp
    (holds [apps] unpaired (.ofNat 1) _ _ ⟨[]⟩ (by decide) document otherDocument read)
  have refused : Json.reader.record (shape Json.reader) (.object [(unpaired, .ofNat 1), apps] none) =
    .error (.defect .malformed) := rfl
  exact nomatch refused.symm.trans same

end Manifest

end EntityGen
