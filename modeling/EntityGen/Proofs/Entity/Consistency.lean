import EntityGen.Proofs.Entity.Partition

/-!
What the items of an entity are like, whatever the manifest says of their fields. Value kind, generation and rules of a
column are each read off the spelling of the field's kind, and all of them agree with the kind of the column
(`Column.OfField`). The record of a relation with two sides has room for the attributes of both. It gets those of the
side that it is on and none of the other's, even if its field has both (`OneToOne.OfField`, `ManyToMany.OfField`).
`normalize_consistent` says so of every entity, field by field. -/
namespace EntityGen

/-- What a kind asks of its values by itself. -/
inductive Kind.Asks : Kind → Rule → Prop
  | email : Asks .email .email
  | url : Asks .url .url
  | genericIpAddress : Asks .genericIpAddress .ip
  | ipAddress : Asks .ipAddress .ip
  | positive {kind : Kind} : kind.isPositive = true → Asks kind (.atLeast 0)

/-- The column is of the field: its kind is what the field's is a spelling of, and all else goes by the kind. -/
structure Column.OfField (field : Field) (c : Column) : Prop where
  spelled : (field.kind, c.kind) ∈ Kind.spellings
  stored : c.kind.isRelation = false
  valueKind : c.kind.valueKind? = some c.valueKind
  autoIncrement : c.generation = .autoIncrement ↔ c.kind.isAuto = true
  uuid : c.generation = .uuid ↔ c.kind = .uuid
  setOnUpdate : c.generation = .setOnUpdate ↔ c.kind = .dateTime ∧ field.autoNow = true
  setOnCreate : c.generation = .setOnCreate ↔ c.kind = .dateTime ∧ field.autoNow = false ∧ field.autoNowAdd = true
  /-- At most one rule of the kind, and then the choices if there are any. -/
  rules : ∃ own : List Rule, own.length ≤ 1 ∧ (∀ rule, rule ∈ own ↔ c.kind.Asks rule) ∧
    c.rules = own ++ if field.choices = [] then [] else [.choice field.choices]

/-- The relation is of the field, on the side that the field is declared on, and has nothing of the other side. -/
structure OneToOne.OfField (field : Field) (r : OneToOne) : Prop where
  side : r.isInverse = field.isReverse
  inverse : r.isInverse = true → r.joinColumn = none ∧ r.onDelete = none ∧ r.peerField = field.peerField
  owning : r.isInverse = false →
    r.peerField = none ∧ r.joinColumn = field.attname ∧ r.onDelete = field.onDelete

/-- The relation is of the field, on the side that the field is declared on, and has nothing of the other side. -/
structure ManyToMany.OfField (field : Field) (r : ManyToMany) : Prop where
  side : r.isInverse = field.isReverse
  inverse : r.isInverse = true →
    r.joinTable = none ∧ r.joinColumn = none ∧ r.peerJoinColumn = none ∧ r.peerField = field.peerField
  owning : r.isInverse = false →
    r.peerField = none ∧ r.joinTable = field.joinTable ∧ r.joinColumn = field.joinColumn ∧
      r.peerJoinColumn = field.peerJoinColumn

namespace Field
variable {field : Field} {kind : Kind}

/-! ### Columns -/

theorem length_kindRules_le (kind : Kind) : (kindRules kind).length ≤ 1 := by
  cases kind <;> decide

theorem mem_kindRules {rule : Rule} : rule ∈ kindRules kind ↔ kind.Asks rule := by
  constructor
  · intro h
    cases kind with
    | email =>
      rw [List.mem_singleton.mp h]
      exact .email
    | url =>
      rw [List.mem_singleton.mp h]
      exact .url
    | genericIpAddress =>
      rw [List.mem_singleton.mp h]
      exact .genericIpAddress
    | ipAddress =>
      rw [List.mem_singleton.mp h]
      exact .ipAddress
    | positiveSmallInteger | positiveInteger | positiveBigInteger =>
      rw [List.mem_singleton.mp h]
      exact .positive rfl
    | _ => exact nomatch h
  · intro h
    cases h with
    | positive positive =>
      cases kind with
      | positiveSmallInteger | positiveInteger | positiveBigInteger => exact List.mem_singleton_self _
      | _ => exact nomatch positive
    | _ => exact List.mem_singleton_self _

theorem generation_eq (known : field.kind? = some kind) :
    field.generation =
      if kind.isAuto then .autoIncrement
      else if kind = .uuid then .uuid
      else if kind = .dateTime then
        if field.autoNow then .setOnUpdate else if field.autoNowAdd then .setOnCreate else .none
      else .none := by
  unfold generation
  rw [known]
  cases kind <;> rfl

theorem generation_eq_autoIncrement_iff (known : field.kind? = some kind) :
    field.generation = .autoIncrement ↔ kind.isAuto = true := by
  rw [generation_eq known]
  split_ifs with auto <;> simp [auto]

theorem generation_eq_uuid_iff (known : field.kind? = some kind) :
    field.generation = .uuid ↔ kind = .uuid := by
  rw [generation_eq known]
  grind [Kind.isAuto]

theorem generation_eq_setOnUpdate_iff (known : field.kind? = some kind) :
    field.generation = .setOnUpdate ↔ kind = .dateTime ∧ field.autoNow = true := by
  rw [generation_eq known]
  grind [Kind.isAuto]

theorem generation_eq_setOnCreate_iff (known : field.kind? = some kind) :
    field.generation = .setOnCreate ↔ kind = .dateTime ∧ field.autoNow = false ∧ field.autoNowAdd = true := by
  rw [generation_eq known]
  grind [Kind.isAuto]

theorem rules_eq (known : field.kind? = some kind) :
    field.rules = kindRules kind ++ if field.choices = [] then [] else [.choice field.choices] := by
  unfold rules
  rw [known]
  cases field.choices <;> rfl

/-- The five classifications of a field all go by the kind that it is spelled with. -/
theorem ofField_of_toColumn {c : Column} (made : field.toColumn = .ok c) : c.OfField field := by
  obtain ⟨kind, value, known, valued, rfl⟩ := toColumn_eq_ok_iff.mp made
  have stored : kind.isRelation = false := by
    rw [← Bool.not_eq_true, ← Kind.valueKind?_eq_none_iff, valued]
    exact nofun
  exact {
    spelled := Kind.ofName?_eq_some_iff.mp known
    stored
    valueKind := valued
    autoIncrement := generation_eq_autoIncrement_iff known
    uuid := generation_eq_uuid_iff known
    setOnUpdate := generation_eq_setOnUpdate_iff known
    setOnCreate := generation_eq_setOnCreate_iff known
    rules := ⟨kindRules kind, length_kindRules_le kind, fun _ => mem_kindRules, rules_eq known⟩ }

/-! ### Relations -/

/-- A field's attributes of the other side do not get through. -/
theorem ofField_toOneToOne (field : Field) : field.toOneToOne.OfField field := by
  unfold toOneToOne
  split_ifs with reverse
  · exact ⟨reverse.symm, fun _ => ⟨rfl, rfl, rfl⟩, nofun⟩
  · exact ⟨(Bool.eq_false_iff.mpr reverse).symm, nofun, fun _ => ⟨rfl, rfl, rfl⟩⟩

theorem ofField_toManyToMany (field : Field) : field.toManyToMany.OfField field := by
  unfold toManyToMany
  split_ifs with reverse
  · exact ⟨reverse.symm, fun _ => ⟨rfl, rfl, rfl, rfl⟩, nofun⟩
  · exact ⟨(Bool.eq_false_iff.mpr reverse).symm, nofun, fun _ => ⟨rfl, rfl, rfl, rfl⟩⟩

end Field

/-! ### Entities -/

namespace Model
variable {model : Model}

/-- **Entities are consistent.** Of every model that is an entity, each column is of a stored field of a known kind:
its value kind, its generation and its rules are those of this kind and of nothing else. Each one-to-one and
many-to-many relation is of a relation with that shape, on the side that it is declared on: the other side has none of
its attributes, whatever the field has. -/
theorem normalize_consistent {app : String} {e : Entity} (made : (model.normalize app).outcome = .ok e) :
    List.Forall₂ Column.OfField (model.stored (·.kind?.isSome)) e.columns ∧
      List.Forall₂ OneToOne.OfField (model.relations (·.oneToOne)) e.oneToOne ∧
      List.Forall₂ ManyToMany.OfField (model.relations (·.manyToMany)) e.manyToMany := by
  obtain ⟨parts, becomes, rfl⟩ := normalize_eq_ok_iff.mp made
  have sorted : model.Sorted (entityOf app model parts) := sorted_entityOf becomes
  refine ⟨?_, ?_, ?_⟩
  · exact sorted.columns.imp fun _ _ made => Field.ofField_of_toColumn made
  · rw [sorted.oneToOne, List.forall₂_map_right_iff, List.forall₂_same]
    exact fun field _ => field.ofField_toOneToOne
  · rw [sorted.manyToMany, List.forall₂_map_right_iff, List.forall₂_same]
    exact fun field _ => field.ofField_toManyToMany

/-- A model whose fields say more than goes with their kinds and their sides. -/
def account : Model where
  name := "Account"
  table := "auth_account"
  fields := [
    { name := "id", kind := "BigAutoField", autoNow := true },
    { name := "homepage", kind := "URLField", choices := ["a.example", "b.example"] },
    { name := "seen", kind := "DateTimeField", autoNow := true, autoNowAdd := true },
    { name := "profile", kind := "OneToOneRel", isRelation := true, oneToOne := true, isReverse := true,
      attname := some "profile_id", peerField := some "account", onDelete := some "CASCADE" },
    { name := "groups", kind := "ManyToManyField", isRelation := true, manyToMany := true,
      joinTable := some "auth_group_account", peerField := some "accounts" }]

theorem normalize_consistent_account :
    ∃ e, (account.normalize "auth").outcome = .ok e ∧
      e.columns.map (·.generation) = [.autoIncrement, .none, .setOnUpdate] ∧
      e.oneToOne = [⟨"profile", none, false, true, none, none, some "account"⟩] ∧
      e.manyToMany = [⟨"groups", none, false, some "auth_group_account", none, none, none⟩] ∧
      List.Forall₂ Column.OfField (account.stored (·.kind?.isSome)) e.columns ∧
      List.Forall₂ OneToOne.OfField (account.relations (·.oneToOne)) e.oneToOne ∧
      List.Forall₂ ManyToMany.OfField (account.relations (·.manyToMany)) e.manyToMany :=
  ⟨_, rfl, rfl, rfl, rfl, @normalize_consistent account "auth" _ rfl⟩

end Model

end EntityGen
