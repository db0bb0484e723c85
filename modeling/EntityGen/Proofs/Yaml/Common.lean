import EntityGen.Proofs.Json.Printing
import EntityGen.Proofs.Yaml.Nodes
import EntityGen.Proofs.Yaml.Scanning
import EntityGen.Yaml.Reader

/-!
What JSON and YAML have in common. Texts in ASCII, natural numbers, flags and null are written in JSON so that YAML has
them too, and so are arrays and objects of them (`Common`). A text that JSON writes for an object of this kind is the
YAML document of the same tree (`parse?_render`). -/
namespace EntityGen.Yaml
open Text (IsBasic)

mutual

/-- A JSON value as YAML has it. -/
def Node.ofJson : Json → Node
  | .null => .scalar none none .plain "null"
  | .bool b => .scalar none none .plain (toString b)
  | .number n => .scalar none none .plain (String.ofList (Json.writeNumeral n))
  | .string literal => .scalar none none .quoted (literal.text?.getD "")
  | .array items _ => .sequence none (ofItems items)
  | .object members _ => .mapping none (ofMembers members)
  | .broken _ => .empty

def Node.ofItems : List Json → List Node
  | [] => []
  | item :: rest => Node.ofJson item :: Node.ofItems rest

def Node.ofMembers : List (Json.Literal × Json) → List (Node × Node)
  | [] => []
  | (key, value) :: rest =>
    (.scalar none none .quoted (key.text?.getD ""), Node.ofJson value) :: Node.ofMembers rest

end

theorem Node.ofItems_eq (items : List Json) : Node.ofItems items = items.map Node.ofJson := by
  induction items with
  | nil => rfl
  | cons item items ih => rw [ofItems, ih, List.map_cons]

/-- A named value as a pair. -/
def Node.ofNamed (p : String × Json) : Node × Node := (.scalar none none .quoted p.1, Node.ofJson p.2)

theorem Node.ofMembers_eq (named : List (String × Json)) :
    Node.ofMembers (named.map fun p => (Json.Literal.ofString p.1, p.2)) = named.map Node.ofNamed := by
  induction named with
  | nil => rfl
  | cons p named ih =>
    rw [List.map_cons, ofMembers, ih, Json.Literal.text?_ofString]
    rfl

theorem Node.ofJson_ofList (items : List Json) : ofJson (.ofList items) = .sequence none (items.map ofJson) := by
  rw [Json.ofList, ofJson, ofItems_eq]

theorem Node.ofJson_ofMembers (named : List (String × Json)) :
    ofJson (.ofMembers named) = .mapping none (named.map ofNamed) := by
  rw [Json.ofMembers, ofJson, ofMembers_eq]

/-- In a flow collection the text of a JSON value is read as the same value in YAML. -/
def Common (j : Json) : Prop := ∃ tokens, Scanner.Scans false j.write tokens ∧ Node.Builds tokens (Node.ofJson j)

/-! ### Scalars -/

theorem common_null : Common .null :=
  ⟨_, .word (by decide) (by decide), Node.builds_scalar .plain _⟩

theorem common_bool (b : Bool) : Common (.bool b) := by
  cases b with
  | false => exact ⟨_, .word (by decide) (by decide), Node.builds_scalar .plain _⟩
  | true => exact ⟨_, .word (by decide) (by decide), Node.builds_scalar .plain _⟩

theorem writeNumeral_ofNat (n : Nat) : Json.writeNumeral (Json.Numeral.ofNat n) = Nat.toDigits 10 n := by
  simp [Json.writeNumeral, Json.Numeral.ofNat]

theorem common_ofNat (n : Nat) : Common (.ofNat n) := by
  have alphanumeric : (Json.writeNumeral (Json.Numeral.ofNat n)).all Char.isAlphanum = true := by
    refine List.all_eq_true.mpr fun c hc => ?_
    rw [writeNumeral_ofNat] at hc
    exact Bool.or_eq_true_iff.mpr (.inr (Nat.isDigit_of_mem_toDigits (by decide) (by decide) hc))
  have some : Json.writeNumeral (Json.Numeral.ofNat n) ≠ [] := by
    rw [writeNumeral_ofNat]
    exact Nat.toDigits_ne_nil
  exact ⟨_, .word some alphanumeric, Node.builds_scalar .plain _⟩

theorem common_ofString {s : String} (basic : IsBasic s) : Common (.ofString s) := by
  refine ⟨_, .literal basic, ?_⟩
  rw [Json.ofString, Node.ofJson, Json.Literal.text?_ofString]
  exact Node.builds_scalar .quoted s

theorem common_ofOption {α : Type} {write : α → Json} {o : Option α} (h : ∀ a ∈ o, Common (write a)) :
    Common (.ofOption write o) := by
  cases o with
  | none => exact common_null
  | some a => exact h a rfl

/-! ### Collections -/

theorem exists_tokens_items : ∀ {items : List Json}, (∀ item ∈ items, Common item) →
    ∃ tokens, Scanner.Scans false (Json.writeItems items) tokens ∧ Node.BuildsItems tokens (items.map Node.ofJson)
  | [], _ => ⟨[], .nil, Node.buildsItems_nil⟩
  | [item], h => by
    obtain ⟨tokens, scans, builds⟩ := h item (List.mem_cons_self ..)
    exact ⟨tokens, scans, builds.buildsItems⟩
  | item :: next :: rest, h => by
    obtain ⟨⟨tokens, scans, builds⟩, others⟩ := List.forall_mem_cons.mp h
    obtain ⟨more, scansMore, buildsMore⟩ := exists_tokens_items others
    exact ⟨_, scans.comma scansMore.toKeyed, builds.buildsItems_cons buildsMore⟩

theorem common_ofList {items : List Json} (h : ∀ item ∈ items, Common item) : Common (.ofList items) := by
  obtain ⟨tokens, scans, builds⟩ := exists_tokens_items h
  refine ⟨_, Scanner.brackets_sequence.scans scans.toKeyed, ?_⟩
  rw [Node.ofJson_ofList]
  exact builds.sequence

/-- A key in ASCII that is not too long for a key. -/
def IsKey (key : String) : Prop :=
  IsBasic key ∧ (quotation key).length ≤ 1024

instance : DecidablePred IsKey := fun _ => inferInstanceAs (Decidable (_ ∧ _))

theorem exists_tokens_members : ∀ {named : List (String × Json)}, (∀ p ∈ named, IsKey p.1 ∧ Common p.2) →
    ∃ tokens, Scanner.Scans true (Json.writeMembers (named.map fun p => (Json.Literal.ofString p.1, p.2))) tokens ∧
      Node.BuildsPairs tokens (named.map Node.ofNamed)
  | [], _ => ⟨[], .nil, Node.buildsPairs_nil⟩
  | [(key, value)], h => by
    obtain ⟨⟨basic, short⟩, tokens, scans, builds⟩ := h _ (List.mem_cons_self ..)
    exact ⟨_, .member basic short scans, builds.buildsPairs .quoted key⟩
  | (key, value) :: next :: rest, h => by
    obtain ⟨⟨⟨basic, short⟩, tokens, scans, builds⟩, others⟩ := List.forall_mem_cons.mp h
    obtain ⟨more, scansMore, buildsMore⟩ := exists_tokens_members others
    exact ⟨_, (Scanner.Scans.member basic short scans).comma scansMore, builds.buildsPairs_cons .quoted key buildsMore⟩

theorem common_ofMembers {named : List (String × Json)} (h : ∀ p ∈ named, IsKey p.1 ∧ Common p.2) :
    Common (.ofMembers named) := by
  obtain ⟨tokens, scans, builds⟩ := exists_tokens_members h
  refine ⟨_, Scanner.brackets_mapping.scans scans, ?_⟩
  rw [Node.ofJson_ofMembers]
  exact builds.mapping

/-- **The text of an object is a YAML document of the same tree.** -/
theorem parse?_render {named : List (String × Json)} (h : ∀ p ∈ named, IsKey p.1 ∧ Common p.2) :
    parse? (Json.render (.ofMembers named)) = some (Node.ofJson (.ofMembers named)) := by
  obtain ⟨tokens, scans, builds⟩ := exists_tokens_members h
  rw [parse?, Json.render, String.toList_ofList, Node.ofJson_ofMembers]
  have written : (Json.ofMembers named).write =
      '\x7b' :: (Json.writeMembers (named.map fun p => (Json.Literal.ofString p.1, p.2)) ++ ['\x7d']) := rfl
  rw [written, Scanner.tokens_mapping scans, Option.bind_some]
  exact builds.mapping.document_eq

end EntityGen.Yaml
