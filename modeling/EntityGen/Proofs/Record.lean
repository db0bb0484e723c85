import EntityGen.Proofs.Sequence
import EntityGen.Record
import Mathlib.Data.List.Nodup
import Mathlib.Data.List.Pairwise
import Mathlib.Data.List.Perm.Basic

/-!
Records and the named values that they are read from, apart from any format. Named values give a record
(`Shape.Gives`) if each can be taken, no attribute is given twice and none that is required is left out; the
record is then the blank one with the values put in, and putting them in one after the other gives exactly these
records (`gives_iff`). If attributes do not get in each other's way (`Shape.Lawful`), the order of the values
does not count, and neither do unknown names and values that say what is so without them. -/
namespace EntityGen

namespace Attribute
variable {ν ε ρ : Type}

/-- Two attributes can be put into a record in either order. -/
def Commutes (a b : Attribute ν ε ρ) : Prop :=
  ∀ v w update other, a.read v = .ok update → b.read w = .ok other →
    ∀ record, update (other record) = other (update record)

instance : Std.Symm (@Commutes ν ε ρ) where
  symm _ _ h v w update other hv hw record := (h w v other update hw hv record).symm

theorem commutes_of {α β : Type} {key other : String} {presence needed : Presence} {read : ν → Except ε α}
    {readOther : ν → Except ε β} {set : α → ρ → ρ} {setOther : β → ρ → ρ}
    (h : ∀ a b record, set a (setOther b record) = setOther b (set a record)) :
    (Attribute.of key presence read set).Commutes (Attribute.of other needed readOther setOther) := by
  intro v w update updateOther hv hw record
  obtain ⟨a, -, rfl⟩ := map_eq_ok_iff.mp hv
  obtain ⟨b, -, rfl⟩ := map_eq_ok_iff.mp hw
  exact h a b record

end Attribute

namespace Shape
variable {ν ε ρ : Type} (shape : Shape ν ε ρ)

/-- Attributes have keys of their own, and do not get in each other's way. -/
structure Lawful : Prop where
  distinct : (shape.attributes.map (·.key)).Nodup
  commute : shape.attributes.Pairwise Attribute.Commutes

/-! ### Keys -/

def keys : List String := shape.attributes.map (·.key)

theorem attribute?_isSome_iff {key : String} : (shape.attribute? key).isSome = true ↔ key ∈ shape.keys := by
  simp [attribute?, keys]

theorem attribute?_eq_none_iff {key : String} : shape.attribute? key = none ↔ key ∉ shape.keys := by
  rw [← attribute?_isSome_iff, Option.not_isSome_iff_eq_none]

variable {shape}

theorem mem_of_attribute? {key : String} {a : Attribute ν ε ρ} (h : shape.attribute? key = some a) :
    a ∈ shape.attributes ∧ a.key = key :=
  ⟨List.mem_of_find?_eq_some h, by simpa using List.find?_some h⟩

/-- Every attribute is found under its key. -/
theorem Lawful.attribute?_eq (lawful : shape.Lawful) {a : Attribute ν ε ρ} (ha : a ∈ shape.attributes) :
    shape.attribute? a.key = some a := by
  cases h : shape.attribute? a.key with
  | none => exact absurd (List.mem_map_of_mem ha) (shape.attribute?_eq_none_iff.mp h)
  | some b =>
    obtain ⟨hb, same⟩ := mem_of_attribute? h
    rw [List.inj_on_of_nodup_map lawful.distinct hb ha same]

theorem Lawful.commutes (lawful : shape.Lawful) {a b : Attribute ν ε ρ} (ha : a ∈ shape.attributes)
    (hb : b ∈ shape.attributes) (h : a.key ≠ b.key) : a.Commutes b :=
  lawful.commute.forall ha hb fun same => h (same ▸ rfl)

/-! ### One value -/

variable (shape) (skip : ν → Except ε Unit)

/-- A named value can be taken: it is read, or it passes under a name that is no attribute's. -/
def Takes (p : String × ν) : Prop :=
  match shape.attribute? p.1 with
  | none => skip p.2 = .ok ()
  | some a => ∃ update, a.read p.2 = .ok update

/-- The record after a named value. -/
def apply (record : ρ) (p : String × ν) : ρ :=
  match shape.attribute? p.1 with
  | none => record
  | some a =>
    match a.read p.2 with
    | .ok update => update record
    | .error _ => record

/-- The attributes that named values are for. -/
def known (named : List (String × ν)) : List String :=
  (named.map (·.1)).filter fun key => (shape.attribute? key).isSome

variable {shape} {skip} {key : String} {value : ν} {a : Attribute ν ε ρ}

theorem apply_of_unknown (h : shape.attribute? key = none) (record : ρ) :
    shape.apply record (key, value) = record := by
  simp only [apply, h]

theorem apply_of_read {update : ρ → ρ} (h : shape.attribute? key = some a) (read : a.read value = .ok update)
    (record : ρ) : shape.apply record (key, value) = update record := by
  simp only [apply, h, read]

theorem takes_of_unknown (h : shape.attribute? key = none) :
    shape.Takes skip (key, value) ↔ skip value = .ok () := by
  simp only [Takes, h]

theorem takes_of_attribute (h : shape.attribute? key = some a) :
    shape.Takes skip (key, value) ↔ ∃ update, a.read value = .ok update := by
  simp only [Takes, h]

theorem mem_known {named : List (String × ν)} :
    key ∈ shape.known named ↔ key ∈ named.map (·.1) ∧ key ∈ shape.keys := by
  rw [known, List.mem_filter, attribute?_isSome_iff]

theorem count_known {named : List (String × ν)} (isKey : key ∈ shape.keys) :
    (shape.known named).count key = (named.map (·.1)).count key :=
  List.count_filter (shape.attribute?_isSome_iff.mpr isKey)

theorem known_append (first second : List (String × ν)) :
    shape.known (first ++ second) = shape.known first ++ shape.known second := by
  simp [known]

theorem known_cons_of_unknown (h : shape.attribute? key = none) (named : List (String × ν)) :
    shape.known ((key, value) :: named) = shape.known named := by
  simp [known, h]

theorem known_cons_of_attribute (h : shape.attribute? key = some a) (named : List (String × ν)) :
    shape.known ((key, value) :: named) = key :: shape.known named := by
  simp [known, h]

/-- A value is put into a draft if it can be taken and its attribute has not been given. -/
theorem put_eq_ok_iff {repeated : String → ε} {under after : Draft ρ} :
    shape.put repeated skip key value under = .ok after ↔
      shape.Takes skip (key, value) ∧ (key ∈ shape.keys → key ∉ under.given) ∧
        ⟨shape.apply under.record (key, value), shape.known [(key, value)] ++ under.given⟩ = after := by
  cases h : shape.attribute? key with
  | none =>
    rw [takes_of_unknown h, apply_of_unknown h, known_cons_of_unknown h]
    have unknown := shape.attribute?_eq_none_iff.mp h
    simp only [put, h, map_eq_ok_iff, unknown, false_implies, true_and]
    exact ⟨fun ⟨_, skipped, same⟩ => ⟨skipped, same⟩, fun ⟨skipped, same⟩ => ⟨(), skipped, same⟩⟩
  | some a =>
    have isKey : key ∈ shape.keys := shape.attribute?_isSome_iff.mp (h ▸ rfl)
    rw [takes_of_attribute h, known_cons_of_attribute h]
    simp only [put, h, isKey, true_implies]
    by_cases given : key ∈ under.given
    · simp [given]
    · have free : ¬ under.given.contains key = true := by simpa using given
      rw [if_neg free, map_eq_ok_iff]
      constructor
      · rintro ⟨update, read, same⟩
        exact ⟨⟨update, read⟩, given, apply_of_read h read _ ▸ same⟩
      · rintro ⟨⟨update, read⟩, -, same⟩
        exact ⟨update, read, apply_of_read h read _ ▸ same⟩

/-! ### All values -/

variable (shape) (skip)

/-- Named values give a record. -/
structure Gives (named : List (String × ν)) (record : ρ) : Prop where
  taken : ∀ p ∈ named, shape.Takes skip p
  once : (shape.known named).Nodup
  required : ∀ a ∈ shape.attributes, a.presence = .required → a.key ∈ named.map (·.1)
  record_eq : named.foldl shape.apply shape.blank = record

variable {shape} {skip} {named : List (String × ν)} {record : ρ}

theorem foldlM_put_eq_ok_iff {repeated : String → ε} {under after : Draft ρ} :
    named.foldlM (fun under p => shape.put repeated skip p.1 p.2 under) under = .ok after ↔
      (∀ p ∈ named, shape.Takes skip p) ∧ (shape.known named).Nodup ∧
        (∀ key ∈ shape.known named, key ∉ under.given) ∧
        ⟨named.foldl shape.apply under.record, (shape.known named).reverse ++ under.given⟩ = after := by
  induction named generalizing under with
  | nil => simp [known, pure, Except.pure]
  | cons p named ih =>
    obtain ⟨key, value⟩ := p
    rw [List.foldlM_cons, bind_eq_ok_iff]
    simp only [put_eq_ok_iff, ih, List.forall_mem_cons, List.foldl_cons]
    cases h : shape.attribute? key with
    | none =>
      have unknown := shape.attribute?_eq_none_iff.mp h
      rw [known_cons_of_unknown h, known_cons_of_unknown h]
      simp only [unknown, false_implies, true_and]
      constructor
      · rintro ⟨_, ⟨taken, rfl⟩, others, once, free, rfl⟩
        exact ⟨⟨taken, others⟩, once, free, rfl⟩
      · rintro ⟨⟨taken, others⟩, once, free, rfl⟩
        exact ⟨_, ⟨taken, rfl⟩, others, once, free, rfl⟩
    | some a =>
      have isKey : key ∈ shape.keys := shape.attribute?_isSome_iff.mp (h ▸ rfl)
      rw [known_cons_of_attribute h, known_cons_of_attribute h]
      simp only [isKey, true_implies, List.nodup_cons, List.forall_mem_cons, List.reverse_cons,
        List.append_assoc, List.singleton_append]
      constructor
      · rintro ⟨_, ⟨taken, given, rfl⟩, others, once, free, rfl⟩
        refine ⟨⟨taken, others⟩, ⟨fun again => ?_, once⟩, ⟨given, fun k hk => ?_⟩, rfl⟩
        · exact free key again (List.mem_cons_self ..)
        · exact fun held => free k hk (List.mem_cons_of_mem _ held)
      · rintro ⟨⟨taken, others⟩, ⟨fresh, once⟩, ⟨given, free⟩, rfl⟩
        refine ⟨_, ⟨taken, given, rfl⟩, others, once, fun k hk held => ?_, rfl⟩
        rcases List.mem_cons.mp held with rfl | held
        · exact fresh hk
        · exact free k hk held

theorem missing?_eq_none_iff {given : List String} :
    shape.missing? given = none ↔ ∀ a ∈ shape.attributes, a.presence = .required → a.key ∈ given := by
  simp [missing?]

/-- **What named values give.** Values are put into the blank record one after the other, and no required
attribute is missing, exactly if they give the record. -/
theorem gives_iff {repeated : String → ε} :
    shape.Gives skip named record ↔
      ∃ under, named.foldlM (fun under p => shape.put repeated skip p.1 p.2 under) ⟨shape.blank, []⟩ = .ok under ∧
        shape.missing? under.given = none ∧ under.record = record := by
  have required : ∀ a ∈ shape.attributes,
      (a.key ∈ (shape.known named).reverse ++ [] ↔ a.key ∈ named.map (·.1)) := by
    intro a ha
    have isKey : a.key ∈ shape.keys := List.mem_map_of_mem ha
    rw [List.append_nil, List.mem_reverse, mem_known, and_iff_left isKey]
  simp only [foldlM_put_eq_ok_iff, missing?_eq_none_iff]
  constructor
  · rintro ⟨taken, once, all, same⟩
    refine ⟨_, ⟨taken, once, fun _ _ => List.not_mem_nil, rfl⟩, fun a ha needed => ?_, same⟩
    exact (required a ha).mpr (all a ha needed)
  · rintro ⟨_, ⟨taken, once, -, rfl⟩, all, same⟩
    exact ⟨taken, once, fun a ha needed => (required a ha).mp (all a ha needed), same⟩

/-! ### Other values that give the same -/

/-- Of two values that are both put in, either can be the first, unless they are for one attribute. -/
theorem Lawful.apply_comm (lawful : shape.Lawful) (record : ρ) {p q : String × ν}
    (h : p.1 = q.1 → p.1 ∉ shape.keys) :
    shape.apply (shape.apply record p) q = shape.apply (shape.apply record q) p := by
  obtain ⟨key, value⟩ := p
  obtain ⟨other, otherValue⟩ := q
  cases hk : shape.attribute? key with
  | none => rw [apply_of_unknown hk, apply_of_unknown hk]
  | some a =>
    cases ho : shape.attribute? other with
    | none => rw [apply_of_unknown ho, apply_of_unknown ho]
    | some b =>
      obtain ⟨ha, keyA⟩ := mem_of_attribute? hk
      obtain ⟨hb, keyB⟩ := mem_of_attribute? ho
      have isKey : key ∈ shape.keys := shape.attribute?_isSome_iff.mp (hk ▸ rfl)
      have apart : a.key ≠ b.key := by
        rw [keyA, keyB]
        exact fun same => h same isKey
      cases hv : a.read value with
      | error e => simp only [apply, hk, hv]
      | ok update =>
        cases hw : b.read otherValue with
        | error e => simp only [apply, ho, hw]
        | ok updateOther =>
          simp only [apply_of_read hk hv, apply_of_read ho hw]
          exact (lawful.commutes ha hb apart value otherValue update updateOther hv hw record).symm

/-- The order of the values does not count. -/
theorem Gives.perm (lawful : shape.Lawful) {others : List (String × ν)} (h : named.Perm others)
    (gives : shape.Gives skip named record) : shape.Gives skip others record := by
  have keys := h.map (·.1)
  refine ⟨fun p hp => gives.taken p (h.mem_iff.mpr hp), ?_, ?_, ?_⟩
  · exact (keys.filter _).nodup_iff.mp gives.once
  · exact fun a ha needed => keys.mem_iff.mp (gives.required a ha needed)
  · rw [← gives.record_eq]
    refine (h.foldl_eq' ?_ _).symm
    intro p hp q hq record
    by_cases same : p = q
    · rw [same]
    · refine lawful.apply_comm record fun key isKey => ?_
      -- Two values of one attribute would be given twice.
      have isKnown : ∀ r ∈ named, r.1 = p.1 →
          r ∈ named.filter fun r => (shape.attribute? r.1).isSome := by
        intro r hr hkey
        refine List.mem_filter.mpr ⟨hr, ?_⟩
        rw [hkey]
        exact shape.attribute?_isSome_iff.mpr isKey
      have once : ((named.filter fun r => (shape.attribute? r.1).isSome).map (·.1)).Nodup := by
        have := gives.once
        rwa [known, List.filter_map] at this
      exact same (List.inj_on_of_nodup_map once (isKnown p hp rfl) (isKnown q hq key.symm) key)

/-- A value that can be taken, is for no required attribute and changes nothing in the blank record can be
given or left out. -/
theorem gives_cons_of_unmoved (taken : shape.Takes skip (key, value))
    (needless : ∀ a ∈ shape.attributes, a.presence = .required → a.key ≠ key)
    (once : (shape.known ((key, value) :: named)).Nodup ↔ (shape.known named).Nodup)
    (neutral : shape.apply shape.blank (key, value) = shape.blank) :
    shape.Gives skip ((key, value) :: named) record ↔ shape.Gives skip named record := by
  constructor
  · intro gives
    refine ⟨fun p hp => gives.taken p (List.mem_cons_of_mem _ hp), once.mp gives.once, ?_, ?_⟩
    · intro a ha needed
      exact (List.mem_cons.mp (gives.required a ha needed)).resolve_left (needless a ha needed)
    · rw [← gives.record_eq, List.foldl_cons, neutral]
  · intro gives
    refine ⟨List.forall_mem_cons.mpr ⟨taken, gives.taken⟩, once.mpr gives.once, ?_, ?_⟩
    · exact fun a ha needed => List.mem_cons_of_mem _ (gives.required a ha needed)
    · rw [← gives.record_eq, List.foldl_cons, neutral]

/-- A value under an unknown name adds nothing, if only it can be passed over. -/
theorem gives_cons_of_unknown (h : key ∉ shape.keys) (passes : skip value = .ok ()) :
    shape.Gives skip ((key, value) :: named) record ↔ shape.Gives skip named record := by
  have unknown := shape.attribute?_eq_none_iff.mpr h
  apply gives_cons_of_unmoved
  · exact (takes_of_unknown unknown).mpr passes
  · exact fun a ha _ same => h (same ▸ List.mem_map_of_mem ha)
  · rw [known_cons_of_unknown unknown]
  · exact apply_of_unknown unknown _

/-- A named value that says what is so without it: its attribute need not be given, and it leaves the blank
record as it is. -/
def Neutral (shape : Shape ν ε ρ) (p : String × ν) : Prop :=
  ∃ a, shape.attribute? p.1 = some a ∧ a.presence ≠ .required ∧
    ∃ update, a.read p.2 = .ok update ∧ update shape.blank = shape.blank

/-- A neutral value can be given or left out. -/
theorem Lawful.gives_cons_of_neutral (lawful : shape.Lawful) (neutral : shape.Neutral (key, value))
    (absent : key ∉ named.map (·.1)) :
    shape.Gives skip ((key, value) :: named) record ↔ shape.Gives skip named record := by
  obtain ⟨a, h, free, update, read, blank⟩ := neutral
  obtain ⟨ha, keyA⟩ := mem_of_attribute? h
  apply gives_cons_of_unmoved
  · exact (takes_of_attribute h).mpr ⟨update, read⟩
  · intro b hb needed same
    have : b = a := List.inj_on_of_nodup_map lawful.distinct hb ha (same.trans keyA.symm)
    exact free (this ▸ needed)
  · have fresh : key ∉ shape.known named := fun held => absent (mem_known.mp held).1
    rw [known_cons_of_attribute h, List.nodup_cons, and_iff_right fresh]
  · rw [apply_of_read h read, blank]

/-- A value can be replaced by one that is read alike. -/
theorem Gives.replace (h : shape.attribute? key = some a) {other : ν}
    (alike : ∀ update, a.read value = .ok update → a.read other = .ok update)
    (gives : shape.Gives skip ((key, value) :: named) record) :
    shape.Gives skip ((key, other) :: named) record := by
  obtain ⟨first, rest⟩ := List.forall_mem_cons.mp gives.taken
  obtain ⟨update, read⟩ := (takes_of_attribute h).mp first
  refine ⟨List.forall_mem_cons.mpr ⟨?_, rest⟩, gives.once, gives.required, ?_⟩
  · exact (takes_of_attribute h).mpr ⟨update, alike update read⟩
  · rw [← gives.record_eq, List.foldl_cons, List.foldl_cons, apply_of_read h read,
      apply_of_read h (alike update read)]

/-! ### Values by position -/

theorem Lawful.takes_of_place (lawful : shape.Lawful) {wanted : List (Attribute ν ε ρ)} {start : ρ}
    (among : ∀ a ∈ wanted, a ∈ shape.attributes) (keys : named.map (·.1) = wanted.map (·.key))
    (placed : place wanted (named.map (·.2)) start = .ok (record, [], [])) :
    (∀ p ∈ named, shape.Takes skip p) ∧ named.foldl shape.apply start = record := by
  induction wanted generalizing named start with
  | nil =>
    obtain rfl := List.map_eq_nil_iff.mp keys
    simp only [List.map_nil, place, Except.ok.injEq, Prod.mk.injEq] at placed
    exact ⟨nofun, placed.1⟩
  | cons a wanted ih =>
    cases named with
    | nil => exact nomatch keys
    | cons p named =>
      obtain ⟨key, value⟩ := p
      obtain ⟨rfl, others⟩ := List.cons.inj keys
      have found := lawful.attribute?_eq (among a (List.mem_cons_self ..))
      simp only [List.map_cons, place] at placed
      cases read : a.read value with
      | error e =>
        rw [read] at placed
        exact nomatch placed
      | ok update =>
        rw [read] at placed
        obtain ⟨taken, same⟩ := ih (fun b hb => among b (List.mem_cons_of_mem _ hb)) others placed
        refine ⟨List.forall_mem_cons.mpr ⟨(takes_of_attribute found).mpr ⟨update, read⟩, taken⟩, ?_⟩
        rw [List.foldl_cons, apply_of_read found read]
        exact same

/-- Values under all keys in order give the record that they give by position. -/
theorem Lawful.gives_of_place (lawful : shape.Lawful) (keys : named.map (·.1) = shape.keys)
    (placed : place shape.attributes (named.map (·.2)) shape.blank = .ok (record, [], [])) :
    shape.Gives skip named record := by
  obtain ⟨taken, same⟩ := lawful.takes_of_place (fun _ ha => ha) keys placed
  refine ⟨taken, ?_, ?_, same⟩
  · rw [known, keys]
    exact lawful.distinct.filter _
  · intro a ha _
    rw [keys]
    exact List.mem_map_of_mem ha

end Shape


end EntityGen
