import EntityGen.Json.Reader
import EntityGen.Proofs.Record

/-!
Records in JSON objects. The members of an object name values by literals, each of which has to be a text. So an
object is read as a record exactly if its members are named values that give the record
(`readRecord_object_eq_ok_iff`). What is written for a text, a count or a list is read back, and a record is if
each of its attributes is (`readRecord_ofMembers`). -/
namespace EntityGen.Json
variable {ρ : Type} {shape : Shape Json Fault ρ} {record : ρ}

/-- A member of an object as a named value. -/
def Names (member : Literal × Json) (p : String × Json) : Prop := member.1.text? = some p.1 ∧ member.2 = p.2

theorem readLiteral_eq_ok_iff {literal : Literal} {text : String} :
    readLiteral literal = .ok text ↔ literal.text? = some text := by
  unfold readLiteral
  cases literal.text? <;> simp

theorem readMembers_eq_ok_iff {members : List (Literal × Json)} {under after : Shape.Draft ρ} :
    readMembers shape members under = .ok after ↔
      ∃ named, List.Forall₂ Names members named ∧
        named.foldlM (fun under p => shape.put .repeated skip p.1 p.2 under) under = .ok after := by
  induction members generalizing under with
  | nil => simp [readMembers, pure, Except.pure]
  | cons member members ih =>
    obtain ⟨literal, value⟩ := member
    simp only [readMembers, bind_eq_ok_iff, readLiteral_eq_ok_iff, ih, List.forall₂_cons_left_iff]
    constructor
    · rintro ⟨key, text, middle, put, named, names, rest⟩
      refine ⟨(key, value) :: named, ⟨(key, value), named, ⟨text, rfl⟩, names, rfl⟩, ?_⟩
      rw [List.foldlM_cons, put]
      exact rest
    · rintro ⟨_, ⟨⟨key, _⟩, named, ⟨text, rfl⟩, names, rfl⟩, run⟩
      rw [List.foldlM_cons, bind_eq_ok_iff] at run
      obtain ⟨middle, put, rest⟩ := run
      exact ⟨key, text, middle, put, named, names, rest⟩

/-- **When an object is a record.** -/
theorem readRecord_object_eq_ok_iff {members : List (Literal × Json)} :
    readRecord shape (.object members none) = .ok record ↔
      ∃ named, List.Forall₂ Names members named ∧ shape.Gives skip named record := by
  show readObject shape members none = .ok record ↔ _
  unfold readObject
  rw [bind_eq_ok_iff]
  simp only [readMembers_eq_ok_iff]
  constructor
  · rintro ⟨under, ⟨named, names, run⟩, finished⟩
    refine ⟨named, names, Shape.gives_iff.mpr ⟨under, run, ?_⟩⟩
    cases whole : shape.missing? under.given with
    | some key =>
      rw [whole] at finished
      cases finished
    | none =>
      rw [whole] at finished
      cases finished
      exact ⟨rfl, rfl⟩
  · rintro ⟨named, names, gives⟩
    obtain ⟨under, run, whole, same⟩ := Shape.gives_iff.mp gives
    refine ⟨under, ⟨named, names, run⟩, ?_⟩
    rw [whole]
    exact congrArg Except.ok same

/-! ### Written values -/

theorem readRecord_ofMembers (lawful : shape.Lawful) {named : List (String × Json)}
    (keys : named.map (·.1) = shape.keys)
    (placed : Shape.place shape.attributes (named.map (·.2)) shape.blank = .ok (record, [], [])) :
    readRecord shape (.ofMembers named) = .ok record := by
  refine readRecord_object_eq_ok_iff.mpr ⟨named, ?_, lawful.gives_of_place keys placed⟩
  rw [List.forall₂_map_left_iff, List.forall₂_same]
  exact fun p _ => ⟨Literal.text?_ofString p.1, rfl⟩

theorem readText_ofString (s : String) : reader.text (.ofString s) = .ok s :=
  readLiteral_eq_ok_iff.mpr (Literal.text?_ofString s)

theorem readFlag_bool (b : Bool) : reader.flag (.bool b) = .ok b := rfl

theorem value?_ofNat {n : Nat} (h : n < Numeral.wordLimit) : (Numeral.ofNat n).value? = some (.integer n) := by
  simp [Numeral.value?, Numeral.ofNat, Numeral.isPlain, h]

theorem readCount_ofNat (n : UInt32) : reader.count (.ofNat n.toNat) = .ok n := by
  have small := n.toNat_lt
  have fits : n.toNat < Numeral.wordLimit := by
    unfold Numeral.wordLimit
    omega
  have below : (n.toNat : Int) < 0x100000000 := by omega
  show readCount (.number (Numeral.ofNat n.toNat)) = _
  simp [readCount, readNumeral, value?_ofNat fits, below, bind, Except.bind, pure, Except.pure]

theorem readOptional_ofOption {α : Type} {read : Json → Except Fault α} {write : α → Json}
    (back : ∀ a, read (write a) = .ok a) (notNull : ∀ a, write a ≠ .null) :
    ∀ o, reader.optional read (.ofOption write o) = .ok o
  | none => rfl
  | some a => by
    have given : reader.isNull (write a) = .ok false := by
      show readNull (write a) = _
      unfold readNull
      split
      · next null => exact absurd null (notNull a)
      · rfl
    show reader.optional read (write a) = _
    rw [Reader.optional, given]
    show (do return some (← read (write a))) = _
    rw [back]
    rfl

theorem readList_array_eq_ok_iff {α : Type} {read : Json → Except Fault α} {items : List Json} {as : List α} :
    reader.list read (.array items none) = .ok as ↔ List.Forall₂ (fun item a => read item = .ok a) items as := by
  rw [← mapM_eq_ok_iff]
  show readList read (.array items none) = _ ↔ _
  rw [readList, bind_eq_ok_iff]
  constructor
  · rintro ⟨_, run, same⟩
    cases same
    exact run
  · exact fun run => ⟨as, run, rfl⟩

theorem readList_ofList {α : Type} {read : Json → Except Fault α} {write : α → Json}
    (back : ∀ a, read (write a) = .ok a) (as : List α) : reader.list read (.ofList (as.map write)) = .ok as := by
  rw [ofList, readList_array_eq_ok_iff, List.forall₂_map_left_iff, List.forall₂_same]
  exact fun a _ => back a

end EntityGen.Json
