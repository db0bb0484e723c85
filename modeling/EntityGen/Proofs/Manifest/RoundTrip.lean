import EntityGen.Manifest.Format
import EntityGen.Proofs.Json.Completeness
import EntityGen.Proofs.Json.Printing
import EntityGen.Proofs.Json.Records
import EntityGen.Proofs.Manifest.Shape

/-!
Manifests written as JSON and read back. Every attribute of a record is written under its own key, and is read from
what is written for it; so a record is read back from its object, and a manifest from every document of its value,
however the document sets blanks and escapes. What the printer makes of the value is one of these documents
(`printed_and_read_back`). -/
namespace EntityGen

/-! ### Reading back -/

theorem Field.record_toJson (f : Field) : Json.reader.record (shape Json.reader) f.toJson = .ok f := by
  have text : ∀ s : Option String, Json.reader.optional Json.reader.text (.ofOption .ofString s) = .ok s :=
    Json.readOptional_ofOption Json.readText_ofString fun _ => nofun
  have count : ∀ n : Option UInt32,
      Json.reader.optional Json.reader.count (.ofOption (fun n => .ofNat n.toNat) n) = .ok n :=
    Json.readOptional_ofOption Json.readCount_ofNat fun _ => nofun
  apply Json.readRecord_ofMembers (lawful_shape Json.reader) rfl
  simp only [shape, List.map_cons, List.map_nil, Shape.place, Attribute.of, Except.map, Json.readText_ofString,
    Json.readFlag_bool, text, count, Json.readList_ofList Json.readText_ofString]

theorem Model.record_toJson (m : Model) : Json.reader.record (shape Json.reader) m.toJson = .ok m := by
  apply Json.readRecord_ofMembers (lawful_shape Json.reader) rfl
  simp only [shape, List.map_cons, List.map_nil, Shape.place, Attribute.of, Except.map, Json.readText_ofString,
    Json.readList_ofList Field.record_toJson]

theorem App.record_toJson (a : App) : Json.reader.record (shape Json.reader) a.toJson = .ok a := by
  apply Json.readRecord_ofMembers (lawful_shape Json.reader) rfl
  simp only [shape, List.map_cons, List.map_nil, Shape.place, Attribute.of, Except.map, Json.readText_ofString,
    Json.readList_ofList Model.record_toJson]

theorem Manifest.record_toJson (m : Manifest) : Json.reader.record (shape Json.reader) m.toJson = .ok m := by
  apply Json.readRecord_ofMembers (lawful_shape Json.reader) rfl
  simp only [shape, List.map_cons, List.map_nil, Shape.place, Attribute.of, Except.map,
    Json.readList_ofList App.record_toJson]

/-! ### Writing -/

theorem Field.written_toJson (f : Field) : f.toJson.Written := by
  have text : ∀ s : Option String, (Json.ofOption Json.ofString s).Written :=
    Json.written_ofOption Json.written_ofString
  have count : (Json.ofOption (fun n => .ofNat n.toNat) f.maxLength).Written :=
    Json.written_ofOption (fun n => Json.written_ofNat n.toNat) f.maxLength
  have choices : (Json.ofList (f.choices.map .ofString)).Written :=
    Json.written_ofList (List.forall_mem_map.mpr fun s _ => Json.written_ofString s)
  apply Json.written_ofMembers
  simp only [List.forall_mem_cons, List.not_mem_nil, false_implies, implies_true, and_true, Json.written_ofString,
    Json.written_bool, text, count, choices]

theorem Model.written_toJson (m : Model) : m.toJson.Written := by
  have fields : (Json.ofList (m.fields.map Field.toJson)).Written :=
    Json.written_ofList (List.forall_mem_map.mpr fun f _ => f.written_toJson)
  apply Json.written_ofMembers
  simp only [List.forall_mem_cons, List.not_mem_nil, false_implies, implies_true, and_true, Json.written_ofString,
    fields]

theorem App.written_toJson (a : App) : a.toJson.Written := by
  have models : (Json.ofList (a.models.map Model.toJson)).Written :=
    Json.written_ofList (List.forall_mem_map.mpr fun m _ => m.written_toJson)
  apply Json.written_ofMembers
  simp only [List.forall_mem_cons, List.not_mem_nil, false_implies, implies_true, and_true, Json.written_ofString,
    models]

theorem Manifest.written_toJson (m : Manifest) : m.toJson.Written := by
  have apps : (Json.ofList (m.apps.map App.toJson)).Written :=
    Json.written_ofList (List.forall_mem_map.mpr fun a _ => a.written_toJson)
  apply Json.written_ofMembers
  simp only [List.forall_mem_cons, List.not_mem_nil, false_implies, implies_true, and_true, apps]

/-! ### Documents -/

theorem Text.isBlank_of_json {c : Char} (h : Json.isBlank c = true) : isBlank c = true := by
  simp only [Json.isBlank, Bool.or_eq_true, beq_iff_eq] at h
  rcases h with ((rfl | rfl) | rfl) | rfl <;> decide

namespace Manifest

/-- The document of an object is told to be JSON. -/
theorem sniff_of_mem_documents {members : List (Json.Literal × Json)} {text : String}
    (h : text.toList ∈ Json.documents (.object members none)) : Format.sniff text = .json := by
  obtain ⟨before, hb, body, hbody, after, -, same⟩ := Json.mem_spaced.mp h
  obtain ⟨tail, -, rfl⟩ := Json.mem_mark_mul.mp (by simpa only [Json.texts] using hbody)
  have trimmed : Text.trimStart text.toList = '\x7b' :: (tail ++ after) := by
    rw [← same, Text.trimStart, List.dropWhile_append_of_pos fun c hc => Text.isBlank_of_json (hb c hc)]
    exact List.dropWhile_cons_of_neg (by decide)
  rw [Format.sniff, trimmed]
  rfl

/-- A document is read as a manifest exactly if its value is. -/
theorem parse_eq_ok_iff {m : Manifest} {j : Json} {text : String} (h : text.toList ∈ Json.documents j) :
    parse .json text = .ok m ↔ Json.reader.record (shape Json.reader) j = .ok m := by
  rw [parse, Json.readDocument_of_mem_documents h]
  cases Json.reader.record (shape Json.reader) j <;> simp [Except.mapError]

/-- What is printed for a manifest, after whatever blanks, is a document of its value. -/
theorem render_mem_documents (m : Manifest) {before : String} (h : before.toList ∈ Json.blanks) :
    (before ++ Json.render m.toJson).toList ∈ Json.documents m.toJson := by
  refine Json.mem_spaced.mpr ⟨before.toList, h, m.toJson.write, m.written_toJson, [], Json.nil_mem_blanks, ?_⟩
  rw [List.append_nil, String.toList_append, Json.render, String.toList_ofList]

/-- The format of a document is told, and the manifest is read from it. -/
theorem parse_of_mem_documents {m : Manifest} {text : String} (h : text.toList ∈ Json.documents m.toJson) :
    Format.sniff text = .json ∧ parse (Format.sniff text) text = .ok m := by
  have json : Format.sniff text = .json := sniff_of_mem_documents h
  rw [json]
  exact ⟨rfl, (parse_eq_ok_iff h).mpr m.record_toJson⟩

/-- **A manifest is read back from JSON.** From what is printed for it, after whatever blanks, the format is told
and the manifest is read again; and so it is from every other document of its value. -/
theorem printed_and_read_back (m : Manifest) :
    (∀ before : String, before.toList ∈ Json.blanks →
      Format.sniff (before ++ Json.render m.toJson) = .json ∧
        parse (Format.sniff (before ++ Json.render m.toJson)) (before ++ Json.render m.toJson) = .ok m) ∧
    ∀ text : String, text.toList ∈ Json.documents m.toJson →
      Format.sniff text = .json ∧ parse (Format.sniff text) text = .ok m :=
  ⟨fun _ h => parse_of_mem_documents (m.render_mem_documents h), fun _ h => parse_of_mem_documents h⟩

/-- A manifest with quotes, control characters and a count of 32 bits, printed on a line of its own. -/
theorem printed_and_read_back_awkward :
    let field : Field := { name := "\x1f/", maxLength := some 4294967295, choices := ["", "\t"] }
    let m : Manifest := ⟨[⟨"\"\\\n\x00", [⟨"é😀", "", [field]⟩]⟩]⟩
    "\n".toList ∈ Json.blanks ∧ Format.sniff ("\n" ++ Json.render m.toJson) = .json ∧
      parse .json ("\n" ++ Json.render m.toJson) = .ok m := by
  intro field m
  have blank : "\n".toList ∈ Json.blanks := by
    intro c hc
    obtain rfl := List.mem_singleton.mp hc
    rfl
  obtain ⟨json, read⟩ := (printed_and_read_back m).1 "\n" blank
  rw [json] at read
  exact ⟨blank, json, read⟩

end Manifest

end EntityGen
