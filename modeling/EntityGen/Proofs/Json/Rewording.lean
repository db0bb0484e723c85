import EntityGen.Proofs.Json.Grammar
import EntityGen.Proofs.Json.Records
import Mathlib.Logic.Relation

/-!
Other words for the same record. An object can be changed in ways that its record does not show (`Reworded`): its
members can change places, it can have members that its shape does not know, and it can say what is so by default
or leave it unsaid. Each of these changes leaves the record that is read as it is (`Reworded.alike`), and so do
many of them one after the other, there and back (`alike_of_eqvGen`). -/
namespace EntityGen.Json
variable {ρ α : Type}

/-- One change in the words of an object that is read as a record. The places of members do not count, so the other
changes are made to the member in front. -/
inductive Reworded (shape : Shape Json Fault ρ) (defaults : List (String × Json))
    (inside : String → Json → Json → Prop) : Json → Json → Prop
  /-- Members change places. -/
  | reordered {members others : List (Literal × Json)} (h : members.Perm others) :
    Reworded shape defaults inside (.object members none) (.object others none)
  /-- A member comes in under a name that the shape does not have, whatever JSON value it is. -/
  | unknown {members : List (Literal × Json)} {literal : Literal} {key : String} {value : Json}
    (name : literal.text? = some key) (new : key ∉ shape.keys) (valid : ∃ text, text ∈ value.texts) :
    Reworded shape defaults inside (.object members none) (.object ((literal, value) :: members) none)
  /-- A default is written out that was not given. -/
  | default {members : List (Literal × Json)} {literal : Literal} {key : String} {value : Json}
    (name : literal.text? = some key) (given : (key, value) ∈ defaults)
    (absent : ∀ member ∈ members, member.1.text? ≠ some key) :
    Reworded shape defaults inside (.object members none) (.object ((literal, value) :: members) none)
  /-- The value of a member changes. -/
  | inside {members : List (Literal × Json)} {literal : Literal} {key : String} {value other : Json}
    (name : literal.text? = some key) (h : inside key value other) :
    Reworded shape defaults inside (.object ((literal, value) :: members) none)
      (.object ((literal, other) :: members) none)

/-- One change to one item of an array. -/
inductive ItemReworded (edit : Json → Json → Prop) : Json → Json → Prop
  | item {before after : List Json} {item other : Json} (h : edit item other) :
    ItemReworded edit (.array (before ++ item :: after) none) (.array (before ++ other :: after) none)

/-! ### Read alike -/

/-- Two values that are read as the same or not at all. -/
def Alike (read : Json → Except Fault α) (value other : Json) : Prop :=
  ∀ a, read value = .ok a ↔ read other = .ok a

theorem alike_of_eqvGen {read : Json → Except Fault α} {edit : Json → Json → Prop}
    (step : ∀ {value other}, edit value other → Alike read value other) {value other : Json}
    (h : Relation.EqvGen edit value other) : Alike read value other := by
  induction h with
  | rel _ _ h => exact step h
  | refl _ => exact fun _ => Iff.rfl
  | symm _ _ _ ih => exact fun a => (ih a).symm
  | trans _ _ _ _ _ first second => exact fun a => (first a).trans (second a)

theorem Alike.map {β : Type} {read : Json → Except Fault α} {value other : Json} (h : Alike read value other)
    (f : α → β) : Alike (fun v => (read v).map f) value other := by
  intro b
  simp only [map_eq_ok_iff, h _]

/-- An item of an array can be changed as long as it is read alike. -/
theorem ItemReworded.alike {edit : Json → Json → Prop} {read : Json → Except Fault α}
    (step : ∀ {value other}, edit value other → Alike read value other) {value other : Json}
    (h : ItemReworded edit value other) : Alike (reader.list read) value other := by
  intro as
  cases h with
  | @item before after item other changed =>
    rw [readList_array_eq_ok_iff, readList_array_eq_ok_iff]
    induction before generalizing as with
    | nil => simp only [List.nil_append, List.forall₂_cons_left_iff, step changed _]
    | cons first before ih => simp only [List.cons_append, List.forall₂_cons_left_iff, ih]

/-! ### Changes to a record -/

section
variable {shape : Shape Json Fault ρ} {record : ρ} {literal : Literal} {key : String} {value : Json}
  {members : List (Literal × Json)}

/-- A record is read from the first member and the others. -/
theorem readRecord_cons_eq_ok_iff (name : literal.text? = some key) :
    readRecord shape (.object ((literal, value) :: members) none) = .ok record ↔
      ∃ named, List.Forall₂ Names members named ∧ shape.Gives skip ((key, value) :: named) record := by
  rw [readRecord_object_eq_ok_iff]
  constructor
  · rintro ⟨_, all, gives⟩
    obtain ⟨⟨other, _⟩, others, ⟨otherName, rfl⟩, names, rfl⟩ := List.forall₂_cons_left_iff.mp all
    obtain rfl : other = key := Option.some.inj (otherName.symm.trans name)
    exact ⟨others, names, gives⟩
  · rintro ⟨named, names, gives⟩
    exact ⟨(key, value) :: named, .cons ⟨name, rfl⟩ names, gives⟩

theorem readRecord_of_perm (lawful : shape.Lawful) {others : List (Literal × Json)} (h : members.Perm others)
    (read : readRecord shape (.object members none) = .ok record) :
    readRecord shape (.object others none) = .ok record := by
  obtain ⟨named, names, gives⟩ := readRecord_object_eq_ok_iff.mp read
  obtain ⟨moved, names, order⟩ := List.perm_comp_forall₂ h.symm names
  exact readRecord_object_eq_ok_iff.mpr ⟨moved, names, gives.perm lawful order.symm⟩

/-- A name that no member has is not among the names that the members give. -/
theorem not_mem_of_absent {named : List (String × Json)} (names : List.Forall₂ Names members named)
    (absent : ∀ member ∈ members, member.1.text? ≠ some key) : key ∉ named.map (·.1) := by
  intro held
  obtain ⟨p, hp, rfl⟩ := List.mem_map.mp held
  obtain ⟨member, hm, name, -⟩ := exists_of_mem_forall₂ names hp
  exact absent member hm name

end

/-- **A record is read alike from other words**, provided that what is called a default leaves the blank record as
it is, and that what changes in a member's value is read alike. -/
theorem Reworded.alike {shape : Shape Json Fault ρ} {defaults : List (String × Json)}
    {inside : String → Json → Json → Prop} (lawful : shape.Lawful) (neutral : ∀ p ∈ defaults, shape.Neutral p)
    (alike : ∀ {key value other}, inside key value other →
      ∃ a, shape.attribute? key = some a ∧ Alike a.read value other)
    {value other : Json} (h : Reworded shape defaults inside value other) :
    Alike (readRecord shape) value other := by
  intro record
  cases h with
  | reordered h => exact ⟨readRecord_of_perm lawful h, readRecord_of_perm lawful h.symm⟩
  | @unknown members literal key value name new valid =>
    obtain ⟨text, ht⟩ := valid
    have passes : skip value = .ok () := by rw [skip, skipped_of_mem_texts value ht]
    rw [readRecord_cons_eq_ok_iff name, readRecord_object_eq_ok_iff]
    exact exists_congr fun named => and_congr_right fun _ => (Shape.gives_cons_of_unknown new passes).symm
  | @default members literal key value name given absent =>
    rw [readRecord_cons_eq_ok_iff name, readRecord_object_eq_ok_iff]
    exact exists_congr fun named => and_congr_right fun names =>
      (lawful.gives_cons_of_neutral (neutral _ given) (not_mem_of_absent names absent)).symm
  | @inside members literal key value other name h =>
    obtain ⟨a, found, same⟩ := alike h
    rw [readRecord_cons_eq_ok_iff name, readRecord_cons_eq_ok_iff name]
    exact exists_congr fun named => and_congr_right fun _ =>
      ⟨Shape.Gives.replace found fun update => (same update).mp,
        Shape.Gives.replace found fun update => (same update).mpr⟩

end EntityGen.Json
