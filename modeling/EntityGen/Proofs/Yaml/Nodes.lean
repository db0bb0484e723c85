import EntityGen.Yaml.Node

/-!
Flow collections as nodes. Tokens build a node (`Builds`) if they are read as it wherever they stand, with as many steps
as they are tokens. Scalars do, and so do sequences of such nodes and mappings with such values; a mapping is also the
node of a whole document (`document_eq`). -/
namespace EntityGen.Yaml

/-- A node starts with this token, without properties. -/
def Token.isOpening : Token → Bool
  | scalar .. | flowSequenceStart | flowMappingStart => true
  | _ => false

namespace Node

/-- These tokens are read as this node. -/
structure Builds (tokens : List Token) (node : Node) : Prop where
  opening : ∃ token rest, tokens = token :: rest ∧ token.isOpening = true
  parse : ∀ (blocks level : Bool) {fuel : Nat} (rest : List Token) (s : Source), tokens.length ≤ fuel →
      parse blocks level fuel { s with tokens := tokens ++ rest } = some (node, { s with tokens := rest })

/-- These tokens are read as the items of a sequence, before its closing bracket. -/
def BuildsItems (tokens : List Token) (items : List Node) : Prop :=
  ∀ {fuel : Nat} (rest : List Token) (s : Source), tokens.length < fuel →
    flowItems true fuel { s with tokens := tokens ++ .flowSequenceEnd :: rest } =
      some (items, { s with tokens := rest })

/-- These tokens are read as the pairs of a mapping, before its closing brace. -/
def BuildsPairs (tokens : List Token) (pairs : List (Node × Node)) : Prop :=
  ∀ {fuel : Nat} (rest : List Token) (s : Source), tokens.length < fuel →
    flowPairs true fuel { s with tokens := tokens ++ .flowMappingEnd :: rest } =
      some (pairs, { s with tokens := rest })

variable {tokens more : List Token} {node : Node} {items : List Node} {pairs : List (Node × Node)}

theorem builds_scalar (style : Style) (text : String) :
    Builds [.scalar style text] (.scalar none none style text) where
  opening := ⟨_, _, rfl, rfl⟩
  parse _ _ fuel _ _ enough := by
    obtain ⟨fuel, rfl⟩ := Nat.exists_eq_add_one.mpr enough
    rfl

/-! ### Sequences -/

theorem flowItems_end (first : Bool) (fuel : Nat) (rest : List Token) (s : Source) :
    flowItems first (fuel + 1) { s with tokens := .flowSequenceEnd :: rest } =
      some ([], { s with tokens := rest }) := by
  simp [flowItems, Source.isAt, Source.head?, Source.skip]

/-- Behind a comma items are read as if they were the first. -/
theorem flowItems_entry (fuel : Nat) (rest : List Token) (s : Source) :
    flowItems false fuel { s with tokens := .flowEntry :: rest } = flowItems true fuel { s with tokens := rest } := by
  cases fuel with
  | zero => rfl
  | succ fuel =>
    cases rest with
    | nil => simp [flowItems, Source.isAt, Source.head?, Source.skip]
    | cons token rest => cases token <;> simp [flowItems, Source.isAt, Source.head?, Source.skip]

theorem buildsItems_nil : BuildsItems [] [] := by
  intro fuel rest s enough
  obtain ⟨fuel, rfl⟩ := Nat.exists_eq_add_one.mpr enough
  exact flowItems_end true fuel rest s

/-- An item, and the items after it. -/
theorem Builds.flowItems_eq (builds : Builds tokens node) {fuel : Nat} (enough : tokens.length ≤ fuel)
    (rest : List Token) (s : Source) :
    flowItems true (fuel + 1) { s with tokens := tokens ++ rest } = do
      let (items, s) ← flowItems false fuel { s with tokens := rest }
      return (node :: items, s) := by
  have item := builds.parse false false rest s enough
  obtain ⟨token, others, rfl, opening⟩ := builds.opening
  cases token <;> simp [Token.isOpening] at opening <;> simp_all [flowItems, Source.isAt, Source.head?]

theorem Builds.buildsItems (builds : Builds tokens node) : BuildsItems tokens [node] := by
  intro fuel rest s enough
  obtain ⟨fuel, rfl⟩ := Nat.exists_eq_add_one.mpr (Nat.zero_lt_of_lt enough)
  obtain ⟨token, others, same, -⟩ := builds.opening
  have more : 0 < fuel := by
    rw [same] at enough
    simp at enough
    omega
  obtain ⟨more, rfl⟩ := Nat.exists_eq_add_one.mpr more
  rw [builds.flowItems_eq (Nat.le_of_lt_succ enough), flowItems_end]
  rfl

theorem Builds.buildsItems_cons (builds : Builds tokens node) (others : BuildsItems more items) :
    BuildsItems (tokens ++ .flowEntry :: more) (node :: items) := by
  intro fuel rest s enough
  rw [List.length_append, List.length_cons] at enough
  obtain ⟨fuel, rfl⟩ := Nat.exists_eq_add_one.mpr (Nat.zero_lt_of_lt enough)
  rw [List.append_assoc, builds.flowItems_eq (by omega), List.cons_append, flowItems_entry,
    others rest s (by omega)]
  rfl

theorem BuildsItems.sequence (builds : BuildsItems tokens items) :
    Builds (.flowSequenceStart :: (tokens ++ [.flowSequenceEnd])) (.sequence none items) where
  opening := ⟨_, _, rfl, rfl⟩
  parse blocks level fuel rest s enough := by
    rw [List.length_cons, List.length_append, List.length_singleton] at enough
    obtain ⟨fuel, rfl⟩ := Nat.exists_eq_add_one.mpr (Nat.zero_lt_of_lt enough)
    have inside := builds rest s (show tokens.length < fuel by omega)
    simp [parse, Source.properties, Source.number, inside]

/-! ### Mappings -/

theorem flowPairs_end (first : Bool) (fuel : Nat) (rest : List Token) (s : Source) :
    flowPairs first (fuel + 1) { s with tokens := .flowMappingEnd :: rest } =
      some ([], { s with tokens := rest }) := by
  simp [flowPairs, Source.isAt, Source.head?, Source.skip]

/-- Behind a comma a key is read as if it were the first. -/
theorem flowPairs_entry (fuel : Nat) (rest : List Token) (s : Source) :
    flowPairs false fuel { s with tokens := .flowEntry :: rest } = flowPairs true fuel { s with tokens := rest } := by
  cases fuel with
  | zero => rfl
  | succ fuel =>
    cases rest with
    | nil => simp [flowPairs, Source.isAt, Source.head?, Source.skip]
    | cons token rest => cases token <;> simp [flowPairs, Source.isAt, Source.head?, Source.skip]

theorem buildsPairs_nil : BuildsPairs [] [] := by
  intro fuel rest s enough
  obtain ⟨fuel, rfl⟩ := Nat.exists_eq_add_one.mpr enough
  exact flowPairs_end true fuel rest s

/-- A key and a value, and the pairs after them. -/
theorem Builds.flowPairs_eq (builds : Builds tokens node) (style : Style) (text : String) {fuel : Nat}
    (enough : tokens.length + 2 ≤ fuel) (rest : List Token) (s : Source) :
    flowPairs true (fuel + 1) { s with tokens := .key :: .scalar style text :: .value :: (tokens ++ rest) } = do
      let (pairs, s) ← flowPairs false fuel { s with tokens := rest }
      return ((.scalar none none style text, node) :: pairs, s) := by
  obtain ⟨fuel, rfl⟩ := Nat.exists_eq_add_of_le' (Nat.le_of_add_left_le enough)
  have value := builds.parse false false rest s (Nat.le_of_add_le_add_right enough)
  have value_eq : parseValue [.flowEntry, .flowMappingEnd] false (fuel + 2)
      { s with tokens := .value :: (tokens ++ rest) } = some (node, { s with tokens := rest }) := by
    obtain ⟨token, others, rfl, opening⟩ := builds.opening
    cases token <;> simp [Token.isOpening] at opening <;>
      simp_all [parseValue, parseUnless, Source.isAt, Source.head?]
  have key : parseUnless [.value, .flowEntry, .flowMappingEnd] false false (fuel + 2)
      { s with tokens := .scalar style text :: .value :: (tokens ++ rest) } =
        some (.scalar none none style text, { s with tokens := .value :: (tokens ++ rest) }) := rfl
  simp [flowPairs, Source.isAt, Source.head?, key, value_eq]

theorem Builds.buildsPairs (builds : Builds tokens node) (style : Style) (text : String) :
    BuildsPairs (.key :: .scalar style text :: .value :: tokens) [(.scalar none none style text, node)] := by
  intro fuel rest s enough
  simp only [List.length_cons] at enough
  obtain ⟨fuel, rfl⟩ := Nat.exists_eq_add_of_le' (show 2 ≤ fuel by omega)
  rw [List.cons_append, List.cons_append, List.cons_append, builds.flowPairs_eq style text (by omega), flowPairs_end]
  rfl

theorem Builds.buildsPairs_cons (builds : Builds tokens node) (style : Style) (text : String)
    (others : BuildsPairs more pairs) :
    BuildsPairs (.key :: .scalar style text :: .value :: (tokens ++ .flowEntry :: more))
      ((.scalar none none style text, node) :: pairs) := by
  intro fuel rest s enough
  simp only [List.length_append, List.length_cons] at enough
  obtain ⟨fuel, rfl⟩ := Nat.exists_eq_add_one.mpr (Nat.zero_lt_of_lt enough)
  rw [List.cons_append, List.cons_append, List.cons_append, List.append_assoc,
    builds.flowPairs_eq style text (by omega), List.cons_append, flowPairs_entry, others rest s (by omega)]
  rfl

theorem BuildsPairs.mapping (builds : BuildsPairs tokens pairs) :
    Builds (.flowMappingStart :: (tokens ++ [.flowMappingEnd])) (.mapping none pairs) where
  opening := ⟨_, _, rfl, rfl⟩
  parse blocks level fuel rest s enough := by
    rw [List.length_cons, List.length_append, List.length_singleton] at enough
    obtain ⟨fuel, rfl⟩ := Nat.exists_eq_add_one.mpr (Nat.zero_lt_of_lt enough)
    have inside := builds rest s (show tokens.length < fuel by omega)
    simp [parse, Source.properties, Source.number, inside]

/-! ### Documents -/

theorem Builds.document_eq (builds : Builds tokens node) : document (tokens ++ [.streamEnd]) = some node := by
  have parsed := builds.parse true false [.streamEnd] ⟨[], [], standardHandles⟩
    (show tokens.length ≤ 4 * (tokens ++ [Token.streamEnd]).length + 4 by simp; omega)
  obtain ⟨token, others, rfl, opening⟩ := builds.opening
  cases token <;> simp [Token.isOpening] at opening <;>
    simp_all [document, directives, content]

end Node

end EntityGen.Yaml
