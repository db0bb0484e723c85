import EntityGen.Proofs.Record
import EntityGen.Proofs.Yaml.Common

/-!
Reading in YAML what JSON writes. Texts, flags, counts, lists and records are read back from the tree that YAML has of
their JSON values; no alias stands in such a tree, so it does not count what aliases stand for. -/
namespace EntityGen.Yaml

/-! ### Digits -/

theorem digit?_digitChar {d : Nat} (h : d < 10) : digit? 10 (Nat.digitChar d) = some d := by
  revert d
  decide

theorem foldlM_digits {ds : List Nat} (isDigits : ∀ d ∈ ds, d < 10) (n : Nat) :
    (ds.map Nat.digitChar).foldlM (fun n c => (digit? 10 c).map (n * 10 + ·)) n =
      some (ds.foldl (fun n d => n * 10 + d) n) := by
  induction ds generalizing n with
  | nil => rfl
  | cons d ds ih =>
    obtain ⟨first, others⟩ := List.forall_mem_cons.mp isDigits
    simp [digit?_digitChar first, ih others]

theorem natural?_of_nonzero {c : Char} {cs : List Char} (noPlus : c ≠ '+') (noZero : c ≠ '0') :
    natural? (String.ofList (c :: cs)) = digits? 10 (c :: cs) := by
  simp [natural?, decimal?, noPlus, noZero]

/-- Digits as they are written are read as their number: they have no sign and no base, and do not start with zero. -/
theorem natural?_toDigits (n : Nat) : natural? (String.ofList (Nat.toDigits 10 n)) = some n := by
  obtain ⟨ds, ⟨some, isDigits⟩, leading, value, shown⟩ := Json.toDigits_mem_wholeTexts n
  obtain ⟨d, rest, rfl⟩ := List.exists_cons_of_ne_nil some
  rw [← shown]
  by_cases zero : d = 0
  · obtain ⟨-, rfl⟩ := List.cons.inj (leading (congrArg Option.some zero))
    rw [zero] at value ⊢
    rw [← value]
    rfl
  · have first : Nat.digitChar d ≠ '+' ∧ Nat.digitChar d ≠ '0' := by
      have nonzero : ∀ d < 10, d ≠ 0 → Nat.digitChar d ≠ '+' ∧ Nat.digitChar d ≠ '0' := by decide
      exact nonzero d (isDigits d (List.mem_cons_self ..)) zero
    rw [List.map_cons, natural?_of_nonzero first.1 first.2, ← List.map_cons, digits?, foldlM_digits isDigits, ← value]
    rfl

/-! ### Values -/

section
variable (anchors : Anchors)

theorem readText_ofString (s : String) : (reader anchors).text (.ofJson (.ofString s)) = .ok s := by
  rw [Json.ofString, Node.ofJson, Json.Literal.text?_ofString]
  rfl

theorem readFlag_bool (b : Bool) : (reader anchors).flag (.ofJson (.bool b)) = .ok b := by
  cases b <;> rfl

theorem natural?_writeNumeral (n : Nat) :
    natural? (String.ofList (Json.writeNumeral (Json.Numeral.ofNat n))) = some n := by
  rw [writeNumeral_ofNat, natural?_toDigits]

theorem readCount_ofNat (n : UInt32) : (reader anchors).count (.ofJson (.ofNat n.toNat)) = .ok n := by
  have small : n.toNat < 0x100000000 := n.toNat_lt
  show Node.readCount anchors (.scalar none none .plain _) = _
  simp only [Node.readCount, Node.resolve, Node.spelling?, Option.bind_some, natural?_writeNumeral, small, if_true]
  rw [Nat.toUInt32, UInt32.ofNat_toNat]

theorem readOptional_ofOption {α : Type} {read : Node → Except Fault α} {write : α → Json}
    (back : ∀ a, read (.ofJson (write a)) = .ok a)
    (notNull : ∀ a, (reader anchors).isNull (.ofJson (write a)) = .ok false) :
    ∀ o, (reader anchors).optional read (.ofJson (.ofOption write o)) = .ok o
  | none => rfl
  | some a => by
    show (reader anchors).optional read (.ofJson (write a)) = _
    rw [Reader.optional, notNull]
    show (do return some (← read (.ofJson (write a)))) = _
    rw [back]
    rfl

theorem readList_ofList {α : Type} {read : Node → Except Fault α} {write : α → Json}
    (back : ∀ a, read (.ofJson (write a)) = .ok a) (as : List α) :
    (reader anchors).list read (.ofJson (.ofList (as.map write))) = .ok as := by
  rw [Node.ofJson_ofList]
  show (List.map Node.ofJson (as.map write)).mapM read = _
  rw [mapM_eq_ok_iff, List.forall₂_map_left_iff, List.forall₂_map_left_iff, List.forall₂_same]
  exact fun a _ => back a

theorem isNull_ofString (s : String) : (reader anchors).isNull (.ofJson (.ofString s)) = .ok false := rfl

/-- No null is spelled in digits. -/
theorem isNull_ofNat (n : Nat) : (reader anchors).isNull (.ofJson (.ofNat n)) = .ok false := by
  have digits := natural?_writeNumeral n
  show Except.ok _ = Except.ok false
  generalize String.ofList (Json.writeNumeral (Json.Numeral.ofNat n)) = text at digits ⊢
  have apart : ∀ word, natural? word = none → text ≠ word := by
    rintro word none rfl
    exact nomatch none.symm.trans digits
  have spelled : text.isEmpty = false := by
    rw [String.isEmpty_eq_false_iff]
    exact apart "" rfl
  have noNull : isNullWord text = false := by
    simp only [isNullWord, Bool.or_eq_false_iff, beq_eq_false_iff_ne]
    exact ⟨⟨⟨apart _ rfl, apart _ rfl⟩, apart _ rfl⟩, apart _ rfl⟩
  rw [spelled, noNull]
  rfl

/-! ### Records -/

variable {ρ : Type} {shape : Shape Node Fault ρ} {record : ρ}

theorem readPairs_ofNamed (named : List (String × Json)) (under : Shape.Draft ρ) :
    Node.readPairs anchors shape (named.map Node.ofNamed) under =
      (named.map fun p => (p.1, Node.ofJson p.2)).foldlM
        (fun under p => shape.put .repeated (fun _ => .ok ()) p.1 p.2 under) under := by
  induction named generalizing under with
  | nil => rfl
  | cons p named ih =>
    rw [List.map_cons, List.map_cons, List.foldlM_cons]
    exact congrArg (shape.put Fault.repeated (fun _ => .ok ()) p.1 (Node.ofJson p.2) under >>= ·) (funext ih)

/-- A record is read back if each of its attributes is. -/
theorem readRecord_ofMembers (lawful : shape.Lawful) {named : List (String × Json)}
    (keys : named.map (·.1) = shape.keys)
    (placed : Shape.place shape.attributes (named.map fun p => Node.ofJson p.2) shape.blank = .ok (record, [], [])) :
    (reader anchors).record shape (.ofJson (.ofMembers named)) = .ok record := by
  have same : (named.map fun p => (p.1, Node.ofJson p.2)).map (·.1) = shape.keys := by
    rw [List.map_map, ← keys]
    rfl
  have gives : shape.Gives (fun _ => .ok ()) (named.map fun p => (p.1, Node.ofJson p.2)) record := by
    refine lawful.gives_of_place same ?_
    rw [List.map_map]
    exact placed
  obtain ⟨under, run, whole, filled⟩ :
      ∃ under, (named.map fun p => (p.1, Node.ofJson p.2)).foldlM
        (fun under p => shape.put .repeated (fun _ => .ok ()) p.1 p.2 under) ⟨shape.blank, []⟩ = .ok under ∧
          shape.missing? under.given = none ∧ under.record = record := Shape.gives_iff.mp gives
  rw [← readPairs_ofNamed anchors] at run
  rw [Node.ofJson_ofMembers]
  show Node.readRecord anchors shape (.mapping none (named.map Node.ofNamed)) = _
  unfold Node.readRecord
  refine bind_eq_ok_iff.mpr ⟨_, rfl, bind_eq_ok_iff.mpr ⟨under, run, ?_⟩⟩
  rw [whole, ← filled]
  rfl

end

end EntityGen.Yaml
