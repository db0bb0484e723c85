import EntityGen.Proofs.Entity.Becomes

/-!
How the fields of a model are sorted into the lists of its entity. `Model.Sorted` says it list by list:
which fields stand in a list, in the order of their declaration, and as what; `Model.Named` says what they
are called there. `normalize_sorts` says that every entity is so sorted and that no field is lost or
doubled. The lists are made from the parts that the fields become, so one lemma about a pass over the parts
(`Picks.forall₂`) carries all of them. -/
namespace EntityGen

namespace Model
variable (model : Model)

/-- The stored fields with a property, as declared. -/
def stored (p : Field → Bool) : List Field := model.fields.filter fun f => !f.isRelation && p f

/-- The relations with a property, as declared. -/
def relations (p : Field → Bool) : List Field := model.fields.filter fun f => f.isRelation && p f

@[simp] theorem stored_false : model.stored (fun _ => false) = [] := by
  simp [stored]

@[simp] theorem relations_false : model.relations (fun _ => false) = [] := by
  simp [relations]

/-- Which fields stand in which list of the entity. -/
structure Sorted (e : Entity) : Prop where
  columns : List.Forall₂ (fun f c => f.toColumn = .ok c) (model.stored (·.kind?.isSome)) e.columns
  oneToOne : e.oneToOne = (model.relations (·.oneToOne)).map Field.toOneToOne
  manyToOne : List.Forall₂ (fun f r => ∃ attname, f.attname = some attname ∧ f.toManyToOne attname = r)
    (model.relations fun f => f.manyToOne && f.attname.isSome) e.manyToOne
  oneToMany : e.oneToMany = (model.relations (·.oneToMany)).map Field.toOneToMany
  manyToMany : e.manyToMany = (model.relations (·.manyToMany)).map Field.toManyToMany
  skipped : e.skipped =
    (model.stored (·.kind?.isNone)).map (fun f => ⟨f.name, .unrecognizedKind f.kind⟩) ++
      (model.relations fun f => f.manyToOne && f.attname.isNone).map (⟨·.name, .noLocalAttribute⟩)

/-- What the fields are called there: by their names, but a one-to-many relation and the inverse side of a
many-to-many relation by their accessors if they have one. -/
structure Named (e : Entity) : Prop where
  columns : e.columns.map (·.name) = (model.stored (·.kind?.isSome)).map (·.name)
  oneToOne : e.oneToOne.map (·.name) = (model.relations (·.oneToOne)).map (·.name)
  manyToOne : e.manyToOne.map (·.name) =
    (model.relations fun f => f.manyToOne && f.attname.isSome).map (·.name)
  oneToMany : e.oneToMany.map (·.name) =
    (model.relations (·.oneToMany)).map fun f => f.accessorName.getD f.name
  manyToMany : e.manyToMany.map (·.name) =
    (model.relations (·.manyToMany)).map fun f =>
      if f.isReverse then f.accessorName.getD f.name else f.name

end Model

/-! ### One field -/

/-- Stored fields are asked for `p` and relations for `q`. -/
def Field.bySide (p q : Field → Bool) (field : Field) : Bool :=
  bif field.isRelation then q field else p field

/-- `g` finds something in what a field becomes exactly if the field has the property asked of its side,
and what it finds is then an `S` of the field. -/
def Picks {γ : Type} (p q : Field → Bool) (g : Part → Option γ) (S : Field → γ → Prop) : Prop :=
  ∀ field part, field.Becomes part →
    (field.bySide p q = true ∧ ∃ c, g part = some c ∧ S field c) ∨
      (field.bySide p q = false ∧ g part = none)

theorem picks_column :
    Picks (·.kind?.isSome) (fun _ => false) Part.column? (fun f c => f.toColumn = .ok c) := by
  intro field part h
  cases h with
  | column stored hk hc => simp [Field.bySide, Part.column?, stored, hk, hc]
  | unrecognized stored hk => simp [Field.bySide, Part.column?, stored, hk]
  | oneToOne s | manyToOne s | unattached s | oneToMany s | manyToMany s =>
    simp [Field.bySide, Part.column?, s.relation]

theorem picks_oneToOne :
    Picks (fun _ => false) (·.oneToOne) Part.oneToOne? (fun f r => f.toOneToOne = r) := by
  intro field part h
  cases h with
  | column stored | unrecognized stored => simp [Field.bySide, Part.oneToOne?, stored]
  | oneToOne s | manyToOne s | unattached s | oneToMany s | manyToMany s =>
    simp [Field.bySide, Part.oneToOne?, s.relation, s.oneToOne]

theorem picks_manyToOne :
    Picks (fun _ => false) (fun f => f.manyToOne && f.attname.isSome) Part.manyToOne?
      (fun f r => ∃ attname, f.attname = some attname ∧ f.toManyToOne attname = r) := by
  intro field part h
  cases h with
  | column stored | unrecognized stored => simp [Field.bySide, Part.manyToOne?, stored]
  | manyToOne s ha | unattached s ha => simp [Field.bySide, Part.manyToOne?, s.relation, s.manyToOne, ha]
  | oneToOne s | oneToMany s | manyToMany s => simp [Field.bySide, Part.manyToOne?, s.relation, s.manyToOne]

theorem picks_oneToMany :
    Picks (fun _ => false) (·.oneToMany) Part.oneToMany? (fun f r => f.toOneToMany = r) := by
  intro field part h
  cases h with
  | column stored | unrecognized stored => simp [Field.bySide, Part.oneToMany?, stored]
  | oneToOne s | manyToOne s | unattached s | oneToMany s | manyToMany s =>
    simp [Field.bySide, Part.oneToMany?, s.relation, s.oneToMany]

theorem picks_manyToMany :
    Picks (fun _ => false) (·.manyToMany) Part.manyToMany? (fun f r => f.toManyToMany = r) := by
  intro field part h
  cases h with
  | column stored | unrecognized stored => simp [Field.bySide, Part.manyToMany?, stored]
  | oneToOne s | manyToOne s | unattached s | oneToMany s | manyToMany s =>
    simp [Field.bySide, Part.manyToMany?, s.relation, s.manyToMany]

/-- Why a field is left out, if it is. -/
def Field.skipReason (field : Field) : SkipReason :=
  if field.isRelation then .noLocalAttribute else .unrecognizedKind field.kind

theorem picks_skipped :
    Picks (·.kind?.isNone) (fun f => f.manyToOne && f.attname.isNone) Part.skipped?
      (fun f s => ⟨f.name, f.skipReason⟩ = s) := by
  intro field part h
  cases h with
  | column stored hk | unrecognized stored hk =>
    simp [Field.bySide, Part.skipped?, Field.skipReason, stored, hk]
  | manyToOne s ha | unattached s ha =>
    simp [Field.bySide, Part.skipped?, Field.skipReason, s.relation, s.manyToOne, ha]
  | oneToOne s | oneToMany s | manyToMany s => simp [Field.bySide, Part.skipped?, s.relation, s.manyToOne]

/-! ### All fields -/

section All
variable {γ : Type} {p q : Field → Bool} {g : Part → Option γ} {S : Field → γ → Prop}

theorem Picks.forall₂_filter (picks : Picks p q g S) {fields : List Field} {parts : List Part}
    (h : List.Forall₂ Field.Becomes fields parts) :
    List.Forall₂ S (fields.filter (Field.bySide p q)) (parts.filterMap g) := by
  induction h with
  | nil => exact .nil
  | cons hab _ ih =>
    rcases picks _ _ hab with ⟨hp, c, hg, hs⟩ | ⟨hp, hg⟩
    · rw [List.filter_cons_of_pos hp, List.filterMap_cons_some hg]
      exact .cons hs ih
    · rw [List.filter_cons_of_neg (by rw [hp]; decide), List.filterMap_cons_none hg]
      exact ih

/-- Stored fields come before relations. -/
theorem Model.filter_inOrder (model : Model) (p q : Field → Bool) :
    model.inOrder.filter (Field.bySide p q) = model.stored p ++ model.relations q := by
  rw [inOrder, List.filter_append, List.filter_filter, List.filter_filter]
  congr 2
  · funext f
    cases h : f.isRelation <;> simp [Field.bySide, h]
  · funext f
    cases h : f.isRelation <;> simp [Field.bySide, h]

/-- What is found in the parts comes from the fields with the property, stored ones first. -/
theorem Picks.forall₂ (picks : Picks p q g S) {model : Model} {parts : List Part}
    (h : List.Forall₂ Field.Becomes model.inOrder parts) :
    List.Forall₂ S (model.stored p ++ model.relations q) (parts.filterMap g) := by
  rw [← Model.filter_inOrder]
  exact picks.forall₂_filter h

/-- The same where it is a function of the field. -/
theorem Picks.eq_map {f : Field → γ} (picks : Picks p q g fun field c => f field = c) {model : Model}
    {parts : List Part} (h : List.Forall₂ Field.Becomes model.inOrder parts) :
    parts.filterMap g = (model.stored p ++ model.relations q).map f := by
  have images := List.forall₂_map_left_iff.mpr (picks.forall₂ h)
  rw [List.forall₂_eq_eq_eq] at images
  exact images.symm

end All

theorem map_eq_map_of_forall₂ {α β δ : Type} {R : α → β → Prop} {f : α → δ} {g : β → δ} {l : List α}
    {bs : List β} (h : List.Forall₂ R l bs) (same : ∀ a b, R a b → g b = f a) : bs.map g = l.map f := by
  induction h with
  | nil => rfl
  | cons hab _ ih => rw [List.map_cons, List.map_cons, ih, same _ _ hab]

/-- A part is one item or one field left out. -/
theorem length_parts (parts : List Part) :
    (parts.filterMap Part.column?).length + (parts.filterMap Part.oneToOne?).length +
      (parts.filterMap Part.manyToOne?).length + (parts.filterMap Part.oneToMany?).length +
      (parts.filterMap Part.manyToMany?).length + (parts.filterMap Part.skipped?).length =
        parts.length := by
  induction parts with
  | nil => rfl
  | cons part rest ih =>
    rw [List.length_cons, ← ih]
    rcases part with (c | r | r | r | r) | s <;>
      simp only [List.filterMap_cons, Part.column?, Part.oneToOne?, Part.manyToOne?, Part.oneToMany?,
        Part.manyToMany?, Part.skipped?, List.length_cons] <;> omega

namespace Model
variable {model : Model}

theorem length_inOrder : model.inOrder.length = model.fields.length := by
  rw [inOrder, List.length_append, Nat.add_comm]
  exact (List.length_eq_length_filter_add Field.isRelation).symm

/-- The fields left out, each with the reason of its side. -/
theorem map_skipReason (p q : Field → Bool) :
    (model.stored p ++ model.relations q).map (fun f => (⟨f.name, f.skipReason⟩ : Skipped)) =
      (model.stored p).map (fun f => ⟨f.name, .unrecognizedKind f.kind⟩) ++
        (model.relations q).map (⟨·.name, .noLocalAttribute⟩) := by
  rw [List.map_append]
  congr 1
  · refine List.map_congr_left fun f hf => ?_
    have side := (List.mem_filter.mp hf).2
    simp only [Bool.and_eq_true, Bool.not_eq_true'] at side
    simp [Field.skipReason, side.1]
  · refine List.map_congr_left fun f hf => ?_
    have side := (List.mem_filter.mp hf).2
    simp only [Bool.and_eq_true] at side
    simp [Field.skipReason, side.1]

theorem sorted_entityOf {app : String} {parts : List Part}
    (h : List.Forall₂ Field.Becomes model.inOrder parts) : model.Sorted (entityOf app model parts) where
  columns := by simpa [entityOf] using picks_column.forall₂ h
  oneToOne := by simpa [entityOf] using picks_oneToOne.eq_map h
  manyToOne := by simpa [entityOf] using picks_manyToOne.forall₂ h
  oneToMany := by simpa [entityOf] using picks_oneToMany.eq_map h
  manyToMany := by simpa [entityOf] using picks_manyToMany.eq_map h
  skipped := (picks_skipped.eq_map h).trans (map_skipReason _ _)

theorem Sorted.named {e : Entity} (h : model.Sorted e) : model.Named e where
  columns := map_eq_map_of_forall₂ h.columns fun f c hc => by
    obtain ⟨kind, value, _, _, rfl⟩ := Field.toColumn_eq_ok_iff.mp hc
    rfl
  oneToOne := by
    rw [h.oneToOne, List.map_map]
    exact List.map_congr_left fun f _ => f.name_toOneToOne
  manyToOne := map_eq_map_of_forall₂ h.manyToOne fun f r hr => by
    obtain ⟨attname, _, rfl⟩ := hr
    rfl
  oneToMany := by
    rw [h.oneToMany, List.map_map]
    rfl
  manyToMany := by
    rw [h.manyToMany, List.map_map]
    refine List.map_congr_left fun f _ => ?_
    cases hr : f.isReverse <;> simp [Field.name_toManyToMany, hr, Field.accessor]

/-- **Every field stands in one list.** -/
theorem normalize_sorts {app : String} {e : Entity} (h : (model.normalize app).outcome = .ok e) :
    model.Sorted e ∧ model.Named e ∧
      e.columns.length + e.relationCount + e.skipped.length = model.fields.length := by
  obtain ⟨parts, becomes, rfl⟩ := normalize_eq_ok_iff.mp h
  have sorted : model.Sorted (entityOf app model parts) := sorted_entityOf becomes
  refine ⟨sorted, sorted.named, ?_⟩
  have count := length_parts parts
  rw [← becomes.length_eq, length_inOrder] at count
  simp only [entityOf, Entity.relationCount]
  omega

/-- A model with relations declared before stored fields, of which two are left out. -/
def mixed : Model where
  name := "Post"
  table := "blog_post"
  fields := [
    { name := "author", kind := "ForeignKey", isRelation := true, manyToOne := true,
      attname := some "author_id" },
    { name := "place", kind := "PointField" },
    { name := "comment", kind := "ManyToOneRel", isRelation := true, oneToMany := true,
      accessorName := some "comments" },
    { name := "target", kind := "GenericForeignKey", isRelation := true, manyToOne := true },
    { name := "title", kind := "CharField", maxLength := some 50 },
    { name := "tagged", kind := "ManyToManyRel", isRelation := true, manyToMany := true,
      isReverse := true, accessorName := some "tag_set" }]

theorem normalize_sorts_mixed :
    ∃ e, (mixed.normalize "blog").outcome = .ok e ∧ e.skipped.map (·.name) = ["place", "target"] ∧
      mixed.Sorted e ∧ mixed.Named e ∧
        e.columns.length + e.relationCount + e.skipped.length = mixed.fields.length :=
  ⟨_, rfl, rfl, @normalize_sorts mixed "blog" _ rfl⟩

end Model

end EntityGen
