import EntityGen.Proofs.Record

/-!
What a record has in its parts. A part of a record is what one attribute is put into (`Shape.Part`): it can be looked
at, and what is put in is what is seen. In a lawful shape no other attribute changes what is seen there
(`Part.get_update`). So a record that named values give has in each part what the value under the key of the part says,
and what the blank record has if there is none (`Gives.read_eq`, `Gives.get_eq_blank`). -/
namespace EntityGen.Shape
variable {ν ε ρ α : Type} {shape : Shape ν ε ρ} {key : String} {presence : Presence} {read : ν → Except ε α}
  {get : ρ → α}

/-- The attribute of this key is read by `read` and put into what `get` looks at. -/
structure Part (shape : Shape ν ε ρ) (key : String) (presence : Presence) (read : ν → Except ε α) (get : ρ → α)
    (set : α → ρ → ρ) : Prop where
  found : shape.attribute? key = some (.of key presence read set)
  get_set : ∀ a record, get (set a record) = a
  set_get : ∀ record, set (get record) record = record

variable {set : α → ρ → ρ} {skip : ν → Except ε Unit} {named : List (String × ν)} {record : ρ} {value : ν}

namespace Part

theorem takes_iff (part : shape.Part key presence read get set) :
    shape.Takes skip (key, value) ↔ ∃ a, read value = .ok a := by
  rw [takes_of_attribute part.found]
  exact exists_map_eq_ok_iff

theorem apply_eq (part : shape.Part key presence read get set) {a : α} (h : read value = .ok a) (record : ρ) :
    shape.apply record (key, value) = set a record := by
  refine apply_of_read part.found ?_ record
  show (read value).map set = _
  rw [h]
  rfl

/-- Another attribute leaves the part as it is: put in before what is there already, it commutes with that. -/
theorem get_update (part : shape.Part key presence read get set) (lawful : shape.Lawful)
    (readable : ∀ a, ∃ value, read value = .ok a) {other : Attribute ν ε ρ} (mem : other ∈ shape.attributes)
    (apart : other.key ≠ key) {update : ρ → ρ} (h : other.read value = .ok update) (record : ρ) :
    get (update record) = get record := by
  obtain ⟨own, hown⟩ := readable (get record)
  have sets : (Attribute.of key presence read set).read own = .ok (set (get record)) := by
    show (read own).map set = _
    rw [hown]
    rfl
  have swap := lawful.commutes (mem_of_attribute? part.found).1 mem apart.symm own value _ update sets h record
  rw [part.set_get] at swap
  rw [← swap, part.get_set]

/-- Values under other keys leave the part as it is. -/
theorem get_apply (part : shape.Part key presence read get set) (lawful : shape.Lawful)
    (readable : ∀ a, ∃ value, read value = .ok a) {p : String × ν} (apart : p.1 ≠ key) (record : ρ) :
    get (shape.apply record p) = get record := by
  cases found : shape.attribute? p.1 with
  | none => rw [apply_of_unknown found]
  | some other =>
    obtain ⟨mem, same⟩ := mem_of_attribute? found
    cases read : other.read p.2 with
    | error e => simp only [apply, found, read]
    | ok update =>
      rw [apply_of_read found read]
      exact part.get_update lawful readable mem (same.trans_ne apart) read record

theorem get_foldl (part : shape.Part key presence read get set) (lawful : shape.Lawful)
    (readable : ∀ a, ∃ value, read value = .ok a) (absent : key ∉ named.map (·.1)) (record : ρ) :
    get (named.foldl shape.apply record) = get record := by
  induction named generalizing record with
  | nil => rfl
  | cons p named ih =>
    obtain ⟨apart, absent⟩ := not_or.mp (mt List.mem_cons.mpr absent)
    rw [List.foldl_cons, ih absent, part.get_apply lawful readable (Ne.symm apart)]

end Part

/-- The part of an attribute that is not given is as in the blank record. -/
theorem Gives.get_eq_blank (gives : shape.Gives skip named record) (part : shape.Part key presence read get set)
    (lawful : shape.Lawful) (readable : ∀ a, ∃ value, read value = .ok a) (absent : key ∉ named.map (·.1)) :
    get record = get shape.blank := by
  rw [← gives.record_eq, part.get_foldl lawful readable absent]

/-- What is given for an attribute is read as what the record has in its part. -/
theorem Gives.read_eq (gives : shape.Gives skip named record) (part : shape.Part key presence read get set)
    (lawful : shape.Lawful) (readable : ∀ a, ∃ value, read value = .ok a) (mem : (key, value) ∈ named) :
    read value = .ok (get record) := by
  obtain ⟨a, ha⟩ := part.takes_iff.mp (gives.taken _ mem)
  obtain ⟨before, after, rfl⟩ := List.append_of_mem mem
  -- The values behind this one are under other keys, for no attribute is given twice.
  have once : key ∉ after.map (·.1) := by
    intro again
    have isKey : key ∈ shape.keys := shape.attribute?_isSome_iff.mp (part.found ▸ rfl)
    have twice := gives.once
    rw [known_append, known_cons_of_attribute part.found] at twice
    have fresh := (List.nodup_cons.mp (List.nodup_append.mp twice).2.1).1
    exact fresh (mem_known.mpr ⟨again, isKey⟩)
  rw [ha, ← gives.record_eq, List.foldl_append, List.foldl_cons, part.get_foldl lawful readable once,
    part.apply_eq ha, part.get_set]

end EntityGen.Shape
