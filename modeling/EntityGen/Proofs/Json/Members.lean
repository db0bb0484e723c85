import EntityGen.Proofs.Json.Grammar
import EntityGen.Proofs.Json.Records
import EntityGen.Proofs.Json.Values
import EntityGen.Proofs.Record.Parts

/-!
What the members of an object say. A member says something under its name if its value does (`Says`), and what no member
says can go without saying. An object is read as a record that has for each attribute what the member of that name says
(`Keeps.says_get`). No attribute is given twice if no name of an attribute is there twice (`nodup_known_iff`), and
members with other names are passed over if the object has a text at all (`skip_of_mem_texts`). -/
namespace EntityGen.Json
variable {α : Type} {value : Json}

/-- A member of this name has this value. -/
def Has (members : List (Literal × Json)) (key : String) (value : Json) : Prop :=
  ∃ literal, (literal, value) ∈ members ∧ literal.text? = some key

/-- How many members have this name. -/
def occurrences (members : List (Literal × Json)) (key : String) : Nat :=
  members.countP fun member => member.1.text? == some key

/-- A member of this name says `a`, or there is none and `a` goes without saying. -/
def Says (members : List (Literal × Json)) (key : String) (Is : Json → α → Prop) (unsaid a : α) : Prop :=
  (∃ value, Has members key value ∧ Is value a) ∨ (∀ value, ¬ Has members key value) ∧ a = unsaid

variable {members : List (Literal × Json)} {named : List (String × Json)} {key : String}

/-- What is there does not go without saying. -/
theorem Says.of_there {Is : Json → α → Prop} {unsaid a : α} (said : Says members key Is unsaid a)
    (there : ∃ value, Has members key value) : ∃ value, Has members key value ∧ Is value a := by
  obtain ⟨value, has⟩ := there
  exact said.resolve_right fun silent => silent.1 value has

theorem exists_names_iff :
    (∃ named, List.Forall₂ Names members named) ↔ ∀ member ∈ members, ∃ s, member.1.text? = some s := by
  constructor
  · rintro ⟨named, names⟩
    induction names with
    | nil => exact nofun
    | cons own _ ih => exact List.forall_mem_cons.mpr ⟨⟨_, own.1⟩, ih⟩
  · intro texts
    induction members with
    | nil => exact ⟨[], .nil⟩
    | cons member members ih =>
      obtain ⟨⟨s, hs⟩, texts⟩ := List.forall_mem_cons.mp texts
      obtain ⟨named, names⟩ := ih texts
      exact ⟨(s, member.2) :: named, .cons ⟨hs, rfl⟩ names⟩

theorem has_iff (names : List.Forall₂ Names members named) : Has members key value ↔ (key, value) ∈ named := by
  constructor
  · rintro ⟨literal, mem, name⟩
    obtain ⟨before, ⟨other, _⟩, after, rfl, otherName, rfl⟩ := exists_split_of_mem_forall₂ names mem
    obtain rfl : other = key := Option.some.inj (otherName.symm.trans name)
    exact List.mem_append_right _ (List.mem_cons_self ..)
  · intro mem
    obtain ⟨⟨literal, _⟩, there, name, rfl⟩ := exists_of_mem_forall₂ names mem
    exact ⟨literal, there, name⟩

theorem exists_has_iff (names : List.Forall₂ Names members named) :
    (∃ value, Has members key value) ↔ key ∈ named.map (·.1) := by
  simp only [has_iff names, List.mem_map]
  constructor
  · rintro ⟨value, mem⟩
    exact ⟨(key, value), mem, rfl⟩
  · rintro ⟨⟨_, value⟩, mem, rfl⟩
    exact ⟨value, mem⟩

theorem occurrences_eq (names : List.Forall₂ Names members named) (key : String) :
    occurrences members key = (named.map (·.1)).count key := by
  unfold occurrences
  induction names with
  | nil => rfl
  | cons own _ ih => rw [List.countP_cons, List.map_cons, List.count_cons, ih, own.1, Option.some_beq_some]

/-- A name that is no text names nothing. -/
theorem has_cons_of_unpaired {literal : Literal} {other : Json} (unpaired : literal.text? = none) :
    Has ((literal, other) :: members) key value ↔ Has members key value := by
  constructor
  · rintro ⟨own, mem, name⟩
    rcases List.mem_cons.mp mem with same | mem
    · obtain ⟨rfl, -⟩ := Prod.mk.inj same
      exact nomatch unpaired.symm.trans name
    · exact ⟨own, mem, name⟩
  · rintro ⟨own, mem, name⟩
    exact ⟨own, List.mem_cons_of_mem _ mem, name⟩

theorem occurrences_cons_of_unpaired {literal : Literal} {other : Json} (unpaired : literal.text? = none) :
    occurrences ((literal, other) :: members) key = occurrences members key := by
  refine List.countP_cons_of_neg ?_
  rw [unpaired]
  exact Bool.false_ne_true

/-- No attribute is given twice if no name of an attribute is there twice. -/
theorem nodup_known_iff {ρ : Type} {shape : Shape Json Fault ρ} (names : List.Forall₂ Names members named) :
    (shape.known named).Nodup ↔ ∀ key ∈ shape.keys, occurrences members key ≤ 1 := by
  simp only [occurrences_eq names, List.nodup_iff_count_le_one]
  constructor
  · intro once key isKey
    rw [← Shape.count_known isKey]
    exact once key
  · intro once key
    by_cases isKey : key ∈ shape.keys
    · rw [Shape.count_known isKey]
      exact once key isKey
    · rw [List.count_eq_zero_of_not_mem fun mem => isKey (Shape.mem_known.mp mem).2]
      exact Nat.zero_le 1

/-! ### Attributes -/

section
variable {ρ : Type} {shape : Shape Json Fault ρ} {record : ρ} {presence : Presence} {Is : Json → α → Prop} {get : ρ → α}

/-- The record has a part of its own for the attribute of this key, and what a value says for it is as `Is` has it. -/
def Keeps (shape : Shape Json Fault ρ) (key : String) (presence : Presence) (Is : Json → α → Prop) (get : ρ → α) :
    Prop :=
  ∃ read set, shape.Part key presence read get set ∧ (∀ value a, read value = .ok a ↔ Is value a) ∧
    ∀ a, ∃ value, read value = .ok a

theorem keeps_text {get : ρ → String} {set : String → ρ → ρ} (part : shape.Part key presence reader.text get set) :
    Keeps shape key presence IsText get :=
  ⟨_, _, part, fun _ _ => readText_eq_ok_iff, fun s => ⟨_, readText_ofString s⟩⟩

theorem keeps_flag {get : ρ → Bool} {set : Bool → ρ → ρ} (part : shape.Part key presence reader.flag get set) :
    Keeps shape key presence IsFlag get :=
  ⟨_, _, part, fun _ _ => readFlag_eq_ok_iff, fun b => ⟨_, readFlag_bool b⟩⟩

theorem keeps_texts {get : ρ → List String} {set : List String → ρ → ρ}
    (part : shape.Part key presence (reader.list reader.text) get set) : Keeps shape key presence IsTexts get :=
  ⟨_, _, part, fun _ _ => readTexts_eq_ok_iff, fun texts => ⟨_, readList_ofList readText_ofString texts⟩⟩

theorem keeps_optionalText {get : ρ → Option String} {set : Option String → ρ → ρ}
    (part : shape.Part key presence (reader.optional reader.text) get set) :
    Keeps shape key presence (OrNull IsText) get := by
  refine ⟨_, _, part, fun value s => ?_, fun s => ⟨_, readOptional_ofOption readText_ofString (fun _ => nofun) s⟩⟩
  refine readOptional_eq_ok_iff (fun _ => readText_eq_ok_iff) ?_
  rintro _ rfl ⟨_, ⟨⟩, _⟩

theorem keeps_optionalCount {get : ρ → Option UInt32} {set : Option UInt32 → ρ → ρ}
    (part : shape.Part key presence (reader.optional reader.count) get set) :
    Keeps shape key presence (OrNull IsCount) get := by
  refine ⟨_, _, part, fun value n => ?_, fun n => ⟨_, readOptional_ofOption readCount_ofNat (fun _ => nofun) n⟩⟩
  refine readOptional_eq_ok_iff (fun _ => readCount_eq_ok_iff) ?_
  rintro _ rfl ⟨⟩

namespace Keeps

/-- A value that says something can be taken. -/
theorem takes (keeps : Keeps shape key presence Is get) {a : α} (is : Is value a) : shape.Takes skip (key, value) := by
  obtain ⟨read, set, part, reads, -⟩ := keeps
  exact part.takes_iff.mpr ⟨a, (reads value a).mpr is⟩

variable (gives : shape.Gives skip named record) (names : List.Forall₂ Names members named)
include gives names

/-- A value that is there says something. -/
theorem exists_of_has (keeps : Keeps shape key presence Is get) (has : Has members key value) : ∃ a, Is value a := by
  obtain ⟨read, set, part, reads, -⟩ := keeps
  obtain ⟨a, ha⟩ := part.takes_iff.mp (gives.taken _ ((has_iff names).mp has))
  exact ⟨a, (reads value a).mp ha⟩

/-- What has to be there is there. -/
theorem exists_has (keeps : Keeps shape key .required Is get) : ∃ value, Has members key value := by
  obtain ⟨read, set, part, -⟩ := keeps
  exact (exists_has_iff names).mpr (gives.required _ (Shape.mem_of_attribute? part.found).1 rfl)

/-- The record has what is said. -/
theorem says_get (keeps : Keeps shape key presence Is get) (lawful : shape.Lawful) :
    Says members key Is (get shape.blank) (get record) := by
  obtain ⟨read, set, part, reads, readable⟩ := keeps
  by_cases given : ∃ value, Has members key value
  · obtain ⟨value, has⟩ := given
    exact .inl ⟨value, has, (reads _ _).mp (gives.read_eq part lawful readable ((has_iff names).mp has))⟩
  · rw [exists_has_iff names] at given
    refine .inr ⟨fun value has => given ?_, gives.get_eq_blank part lawful readable given⟩
    exact (exists_has_iff names).mp ⟨value, has⟩

end Keeps

end

/-! ### Members that are passed over -/

theorem skip_of_skippedMembers (h : skippedMembers members = none) : ∀ member ∈ members, skip member.2 = .ok () := by
  induction members with
  | nil => exact nofun
  | cons member members ih =>
    obtain ⟨first, others⟩ := Option.or_eq_none_iff.mp h
    refine List.forall_mem_cons.mpr ⟨?_, ih others⟩
    rw [skip, first]

/-- The values in an object that has a text can be passed over. -/
theorem skip_of_mem_texts {text : List Char} (h : text ∈ (object members none).texts) :
    ∀ member ∈ members, skip member.2 = .ok () := by
  refine skip_of_skippedMembers ?_
  have passed := skipped_of_mem_texts _ h
  rwa [skipped, Option.map_none, Option.or_none] at passed

end EntityGen.Json
