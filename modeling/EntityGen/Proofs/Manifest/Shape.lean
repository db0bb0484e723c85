import EntityGen.Json.Reader
import EntityGen.Manifest.Shape
import EntityGen.Proofs.Record

/-!
The shapes of manifests are lawful, through whatever reader they are read: no two attributes of a record have one
key, and each is put into a part of the record that no other is put into. What a record leaves unsaid is so by
default, and the `defaults` say it in JSON: a value that is put into the blank record and leaves it as it is. -/
namespace EntityGen

section
variable {ν ε : Type} (reader : Reader ν ε)

theorem Field.lawful_shape : (Field.shape reader).Lawful where
  distinct := by simp [Field.shape, Attribute.of]
  commute := by simp [Field.shape, Attribute.commutes_of]

theorem Model.lawful_shape : (Model.shape reader).Lawful where
  distinct := by simp [Model.shape, Attribute.of]
  commute := by simp [Model.shape, Attribute.commutes_of]

theorem App.lawful_shape : (App.shape reader).Lawful where
  distinct := by simp [App.shape, Attribute.of]
  commute := by simp [App.shape, Attribute.commutes_of]

theorem Manifest.lawful_shape : (Manifest.shape reader).Lawful where
  distinct := List.nodup_singleton _
  commute := List.pairwise_singleton ..

end

/-! ### Defaults -/

/-- What is so of a field that does not say it. Its name and its kind it has to say. -/
def Field.defaults : List (String × Json) :=
  ("blank", .bool true) :: ("choices", .ofList []) ::
    (["null", "primary_key", "unique", "db_index", "auto_now", "auto_now_add", "is_relation", "one_to_one",
      "many_to_one", "one_to_many", "many_to_many", "is_reverse"].map (·, .bool false) ++
    ["column", "max_length", "related_model", "attname", "accessor_name", "peer_field", "m2m_db_table",
      "m2m_column_name", "m2m_reverse_name", "on_delete"].map (·, .null))

def Model.defaults : List (String × Json) := [("fields", .ofList [])]

def App.defaults : List (String × Json) := [("models", .ofList [])]

def Manifest.defaults : List (String × Json) := [("apps", .ofList [])]

theorem Field.neutral_of_mem_defaults : ∀ p ∈ defaults, (shape Json.reader).Neutral p := by
  simp only [defaults, List.map_cons, List.map_nil, List.cons_append, List.nil_append, List.forall_mem_cons,
    List.not_mem_nil, false_implies, implies_true, and_true]
  repeat' apply And.intro
  all_goals exact ⟨_, rfl, nofun, _, rfl, rfl⟩

theorem Model.neutral_of_mem_defaults : ∀ p ∈ defaults, (shape Json.reader).Neutral p :=
  List.forall_mem_singleton.mpr ⟨_, rfl, nofun, _, rfl, rfl⟩

theorem App.neutral_of_mem_defaults : ∀ p ∈ defaults, (shape Json.reader).Neutral p :=
  List.forall_mem_singleton.mpr ⟨_, rfl, nofun, _, rfl, rfl⟩

theorem Manifest.neutral_of_mem_defaults : ∀ p ∈ defaults, (shape Json.reader).Neutral p :=
  List.forall_mem_singleton.mpr ⟨_, rfl, nofun, _, rfl, rfl⟩

end EntityGen
