import EntityGen.Proofs.Json.Completeness
import EntityGen.Proofs.Json.Members
import EntityGen.Proofs.Json.Printing
import EntityGen.Proofs.Json.Values
import EntityGen.Proofs.Manifest.Shape

/-!
Which objects are fields. An object is read as a field exactly if its known members are there at most once and are of
their types (`Field.Typed`), and if all its names are texts (`Field.decoded_iff`); then each attribute is what the
member of its name says, or its default (`Field.SaidBy`). Of unknown members nothing is asked but a name that is a text.
An escape of half a surrogate pair is none, and an object with such a name is refused, whatever its known members are
(`unpaired_name_not_decoded`). -/
namespace EntityGen.Field
open Json (Has IsText IsFlag IsCount IsTexts OrNull Says)

/-! ### Attributes by their types -/

/-- The attributes that are flags. -/
def flags : List (String × (Field → Bool)) :=
  [("null", null), ("blank", blank), ("primary_key", primaryKey), ("unique", unique), ("db_index", dbIndex),
   ("auto_now", autoNow), ("auto_now_add", autoNowAdd), ("is_relation", isRelation), ("one_to_one", oneToOne),
   ("many_to_one", manyToOne), ("one_to_many", oneToMany), ("many_to_many", manyToMany), ("is_reverse", isReverse)]

/-- The attributes that are texts and may be null. -/
def labels : List (String × (Field → Option String)) :=
  [("column", column), ("related_model", relatedModel), ("attname", attname), ("accessor_name", accessorName),
   ("peer_field", peerField), ("m2m_db_table", joinTable), ("m2m_column_name", joinColumn),
   ("m2m_reverse_name", peerJoinColumn), ("on_delete", onDelete)]

/-- The names of all attributes. -/
def names : List String :=
  ["name", "kind", "choices", "max_length"] ++ flags.map (·.1) ++ labels.map (·.1)

/-- A field may be blank, unless it is said that it may not; no other flag goes without saying. -/
theorem flag_unsaid : ∀ p ∈ flags, p.2 {} = (p.1 == "blank") := by decide

theorem label_unsaid : ∀ p ∈ labels, p.2 {} = none := by decide

/-- The known members of an object are there at most once and are of their types. -/
structure Typed (members : List (Json.Literal × Json)) : Prop where
  once : ∀ key ∈ names, Json.occurrences members key ≤ 1
  name : ∃ value, Has members "name" value
  nameText : ∀ value, Has members "name" value → ∃ s, IsText value s
  kind : ∃ value, Has members "kind" value
  kindText : ∀ value, Has members "kind" value → ∃ s, IsText value s
  flags : ∀ p ∈ flags, ∀ value, Has members p.1 value → ∃ b, IsFlag value b
  choices : ∀ value, Has members "choices" value → ∃ texts, IsTexts value texts
  maxLength : ∀ value, Has members "max_length" value → ∃ n, OrNull IsCount value n
  labels : ∀ p ∈ labels, ∀ value, Has members p.1 value → ∃ s, OrNull IsText value s

/-- Each attribute of the field is what the member of its name says, or else its default. -/
structure SaidBy (members : List (Json.Literal × Json)) (f : Field) : Prop where
  name : ∃ value, Has members "name" value ∧ IsText value f.name
  kind : ∃ value, Has members "kind" value ∧ IsText value f.kind
  flags : ∀ p ∈ flags, Says members p.1 IsFlag (p.1 == "blank") (p.2 f)
  choices : Says members "choices" IsTexts [] f.choices
  maxLength : Says members "max_length" (OrNull IsCount) none f.maxLength
  labels : ∀ p ∈ labels, Says members p.1 (OrNull IsText) none (p.2 f)

theorem Typed.cons_of_unpaired {members : List (Json.Literal × Json)} {literal : Json.Literal} {value : Json}
    (unpaired : literal.text? = none) (typed : Typed members) : Typed ((literal, value) :: members) := by
  obtain ⟨once, name, nameText, kind, kindText, flags, choices, maxLength, labels⟩ := typed
  constructor <;> simp only [Json.has_cons_of_unpaired unpaired, Json.occurrences_cons_of_unpaired unpaired]
  all_goals assumption

/-! ### The shape of a field -/

section
variable {ν ε : Type} (reader : Reader ν ε)

theorem perm_names : (shape reader).keys.Perm names := by
  have keys : (shape reader).keys =
      ["name", "kind", "null", "blank", "primary_key", "unique", "db_index", "column", "max_length", "choices",
        "auto_now", "auto_now_add", "is_relation", "one_to_one", "many_to_one", "one_to_many", "many_to_many",
        "is_reverse", "related_model", "attname", "accessor_name", "peer_field", "m2m_db_table", "m2m_column_name",
        "m2m_reverse_name", "on_delete"] := rfl
  rw [keys]
  decide

theorem required_or {a : Attribute ν ε Field} (mem : a ∈ (shape reader).attributes)
    (required : a.presence = .required) : a.key = "name" ∨ a.key = "kind" := by
  revert required
  revert a
  simp [shape, Attribute.of]

end

/-! ### Attributes as they are kept -/

theorem keeps_name : Json.Keeps (shape Json.reader) "name" .required IsText name :=
  Json.keeps_text ⟨rfl, fun _ _ => rfl, fun _ => rfl⟩

theorem keeps_kind : Json.Keeps (shape Json.reader) "kind" .required IsText kind :=
  Json.keeps_text ⟨rfl, fun _ _ => rfl, fun _ => rfl⟩

theorem keeps_choices : Json.Keeps (shape Json.reader) "choices" .defaulted IsTexts choices :=
  Json.keeps_texts ⟨rfl, fun _ _ => rfl, fun _ => rfl⟩

theorem keeps_maxLength : Json.Keeps (shape Json.reader) "max_length" .optional (OrNull IsCount) maxLength :=
  Json.keeps_optionalCount ⟨rfl, fun _ _ => rfl, fun _ => rfl⟩

theorem keeps_flags : ∀ p ∈ flags, Json.Keeps (shape Json.reader) p.1 .defaulted IsFlag p.2 := by
  simp only [flags, List.forall_mem_cons, List.not_mem_nil, false_implies, implies_true, and_true]
  repeat' apply And.intro
  all_goals exact Json.keeps_flag ⟨rfl, fun _ _ => rfl, fun _ => rfl⟩

theorem keeps_labels : ∀ p ∈ labels, Json.Keeps (shape Json.reader) p.1 .optional (OrNull IsText) p.2 := by
  simp only [labels, List.forall_mem_cons, List.not_mem_nil, false_implies, implies_true, and_true]
  repeat' apply And.intro
  all_goals exact Json.keeps_optionalText ⟨rfl, fun _ _ => rfl, fun _ => rfl⟩

/-! ### Objects read as fields -/

variable {members : List (Json.Literal × Json)} {named : List (String × Json)} {f : Field}

/-- The members of an object that is read as a field are of their types. -/
theorem typed_of_gives (gives : (shape Json.reader).Gives Json.skip named f)
    (names : List.Forall₂ Json.Names members named) : Typed members where
  once key mem := (Json.nodup_known_iff names).mp gives.once key ((perm_names _).mem_iff.mpr mem)
  name := keeps_name.exists_has gives names
  nameText _ := keeps_name.exists_of_has gives names
  kind := keeps_kind.exists_has gives names
  kindText _ := keeps_kind.exists_of_has gives names
  flags p mem _ := (keeps_flags p mem).exists_of_has gives names
  choices _ := keeps_choices.exists_of_has gives names
  maxLength _ := keeps_maxLength.exists_of_has gives names
  labels p mem _ := (keeps_labels p mem).exists_of_has gives names

/-- The field that an object is read as has what its members say. -/
theorem saidBy_of_gives (gives : (shape Json.reader).Gives Json.skip named f)
    (names : List.Forall₂ Json.Names members named) : SaidBy members f := by
  have lawful := lawful_shape Json.reader
  have typed := typed_of_gives gives names
  constructor
  case name => exact (keeps_name.says_get gives names lawful).of_there typed.name
  case kind => exact (keeps_kind.says_get gives names lawful).of_there typed.kind
  case flags =>
    intro p mem
    rw [← flag_unsaid p mem]
    exact (keeps_flags p mem).says_get gives names lawful
  case choices => exact keeps_choices.says_get gives names lawful
  case maxLength => exact keeps_maxLength.says_get gives names lawful
  case labels =>
    intro p mem
    rw [← label_unsaid p mem]
    exact (keeps_labels p mem).says_get gives names lawful

/-- A member of an object with such members can be taken. -/
theorem takes_of_typed (typed : Typed members) (skips : ∀ member ∈ members, Json.skip member.2 = .ok ())
    {key : String} {value : Json} (has : Has members key value) :
    (shape Json.reader).Takes Json.skip (key, value) := by
  by_cases isKey : key ∈ (shape Json.reader).keys
  · have known := (perm_names Json.reader).mem_iff.mp isKey
    simp only [names, List.mem_append, List.mem_cons, List.not_mem_nil, or_false, List.mem_map] at known
    rcases known with ((rfl | rfl | rfl | rfl) | ⟨p, mem, rfl⟩) | ⟨p, mem, rfl⟩
    · obtain ⟨s, is⟩ := typed.nameText value has
      exact keeps_name.takes is
    · obtain ⟨s, is⟩ := typed.kindText value has
      exact keeps_kind.takes is
    · obtain ⟨texts, are⟩ := typed.choices value has
      exact keeps_choices.takes are
    · obtain ⟨n, is⟩ := typed.maxLength value has
      exact keeps_maxLength.takes is
    · obtain ⟨b, is⟩ := typed.flags p mem value has
      exact (keeps_flags p mem).takes is
    · obtain ⟨s, is⟩ := typed.labels p mem value has
      exact (keeps_labels p mem).takes is
  · obtain ⟨literal, mem, -⟩ := has
    rw [Shape.takes_of_unknown ((shape Json.reader).attribute?_eq_none_iff.mpr isKey)]
    exact skips _ mem

/-- Members that are of their types give a field. -/
theorem exists_gives_of_typed (names : List.Forall₂ Json.Names members named) (typed : Typed members)
    (skips : ∀ member ∈ members, Json.skip member.2 = .ok ()) :
    ∃ f, (shape Json.reader).Gives Json.skip named f := by
  refine ⟨_, ?_, ?_, ?_, rfl⟩
  · rintro ⟨key, value⟩ mem
    exact takes_of_typed typed skips ((Json.has_iff names).mpr mem)
  · rw [Json.nodup_known_iff names]
    exact fun key isKey => typed.once key ((perm_names _).mem_iff.mp isKey)
  · intro a mem required
    rw [← Json.exists_has_iff names]
    rcases required_or _ mem required with same | same
    · exact same ▸ typed.name
    · exact same ▸ typed.kind

/-! ### Documents -/

/-- **Which objects are fields.** An object is read as a field exactly if all names in it are texts and its known
members are there at most once and of their types; and then the field is what they say. -/
theorem decoded_iff {members : List (Json.Literal × Json)} {text : String}
    (document : text.toList ∈ Json.documents (.object members none)) :
    ((∃ f, Json.readDocument (Json.reader.record (shape Json.reader)) text = .ok f) ↔
      (∀ member ∈ members, ∃ s, member.1.text? = some s) ∧ Typed members) ∧
    ∀ f, Json.readDocument (Json.reader.record (shape Json.reader)) text = .ok f → SaidBy members f := by
  have reads (f : Field) : Json.readDocument (Json.reader.record (shape Json.reader)) text = .ok f ↔
      ∃ named, List.Forall₂ Json.Names members named ∧ (shape Json.reader).Gives Json.skip named f := by
    rw [Json.readDocument_of_mem_documents document]
    exact Json.readRecord_object_eq_ok_iff
  have skips : ∀ member ∈ members, Json.skip member.2 = .ok () := by
    obtain ⟨_, -, _, body, _⟩ := Json.mem_spaced.mp document
    exact Json.skip_of_mem_texts body
  simp only [reads]
  refine ⟨⟨?_, ?_⟩, ?_⟩
  · rintro ⟨f, named, names, gives⟩
    exact ⟨Json.exists_names_iff.mp ⟨named, names⟩, typed_of_gives gives names⟩
  · rintro ⟨texts, typed⟩
    obtain ⟨named, names⟩ := Json.exists_names_iff.mpr texts
    obtain ⟨f, gives⟩ := exists_gives_of_typed names typed skips
    exact ⟨f, named, names, gives⟩
  · rintro f ⟨named, names, gives⟩
    exact saidBy_of_gives gives names

/-- A note is passed over, null is no column, and what is not said is so by default. -/
theorem decoded_iff_note :
    let members : List (Json.Literal × Json) :=
      [("note", .ofMembers []), ("kind", .ofString "CharField"), ("max_length", .ofNat 40), ("column", .null),
        ("name", .ofString "title"), ("blank", .bool false)].map fun p => (.ofString p.1, p.2)
    let text := "\x7b\"note\":\x7b\x7d,\"kind\":\"CharField\",\"max_length\":40,\"column\":null,\"name\":\"title\"," ++
      "\"blank\":false\x7d"
    text.toList ∈ Json.documents (.object members none) ∧ Typed members ∧
      SaidBy members { name := "title", kind := "CharField", maxLength := some 40, blank := false } := by
  intro members text
  have document : text.toList ∈ Json.documents (.object members none) := by
    have shown : text = Json.render (.object members none) := rfl
    rw [shown]
    refine Json.Written.mem_documents (Json.written_ofMembers ?_)
    simp [Json.written_ofMembers, Json.written_ofString, Json.written_ofNat, Json.written_null, Json.written_bool]
  have decoded := decoded_iff document
  have read : Json.readDocument (Json.reader.record (shape Json.reader)) text =
      .ok { name := "title", kind := "CharField", maxLength := some 40, blank := false } := by
    rw [Json.readDocument_of_mem_documents document]
    rfl
  exact ⟨document, (decoded.1.mp ⟨_, read⟩).2, decoded.2 _ read⟩

/-- The names must be texts: it is not enough that the known members are of their types. -/
theorem unpaired_name_not_decoded :
    ¬ ∀ (members : List (Json.Literal × Json)) (text : String),
      text.toList ∈ Json.documents (.object members none) →
      ((∃ f, Json.readDocument (Json.reader.record (shape Json.reader)) text = .ok f) ↔ Typed members) := by
  intro holds
  let unpaired : Json.Literal := [0xD800]
  let named := [("name", Json.ofString "title"), ("kind", .ofString "TextField")]
  let members : List (Json.Literal × Json) := named.map fun p => (.ofString p.1, p.2)
  let text := "\x7b\"\\ud800\":1,\"name\":\"title\",\"kind\":\"TextField\"\x7d"
  have document : text.toList ∈ Json.documents (.object ((unpaired, .ofNat 1) :: members) none) := by
    have shown : text = Json.render (.object ((unpaired, .ofNat 1) :: members) none) := rfl
    rw [shown]
    refine (Json.written_object (List.forall_mem_cons.mpr ⟨⟨by decide, Json.written_ofNat 1⟩, ?_⟩)).mem_documents
    refine List.forall_mem_map.mpr fun p mem => ⟨Json.lt_of_mem_ofString, ?_⟩
    revert p
    simp [named, Json.written_ofString]
  have typed : Typed members := by
    obtain ⟨_, same, gives⟩ := Json.readRecord_object_eq_ok_iff.mp
      (rfl : Json.reader.record (shape Json.reader) (.object members none) =
        .ok { name := "title", kind := "TextField" })
    exact typed_of_gives gives same
  obtain ⟨f, read⟩ := (holds _ text document).mpr (typed.cons_of_unpaired rfl)
  rw [Json.readDocument_of_mem_documents document] at read
  have refused : Json.reader.record (shape Json.reader) (.object ((unpaired, .ofNat 1) :: members) none) =
    .error (.defect .malformed) := rfl
  exact nomatch refused.symm.trans read

end EntityGen.Field
