import EntityGen.Proofs.Template
import EntityGen.Proofs.Text.Separated
import Mathlib.Data.List.TakeWhile

/-!
Templates cut at their slots. A template is a literal without an opening brace, then a name between braces, then a
literal again, and so on; after the last literal there may be an open end, which starts with a brace that is never
closed. Every template is so in exactly one way (`existsUnique_cut`). Filling keeps literals and open end as they are
and puts each value where its name stands, or fails for the first name without a value (`fill_cut`). -/
namespace EntityGen.Template

/-- A template cut at its slots. -/
inductive Cut where
  | last (literal openEnd : String)
  | slot (literal name : String) (rest : Cut)
  deriving DecidableEq, Repr

namespace Cut

/-- Nothing, or a brace that is opened and not closed. -/
def IsOpenEnd (s : String) : Prop := s = "" ∨ s.toList.head? = some '\x7b' ∧ '\x7d' ∉ s.toList

/-- Literals open no brace, and names close none. -/
def Proper : Cut → Prop
  | last literal openEnd => '\x7b' ∉ literal.toList ∧ IsOpenEnd openEnd
  | slot literal name rest => '\x7b' ∉ literal.toList ∧ '\x7d' ∉ name.toList ∧ rest.Proper

/-- The names between braces. -/
def names : Cut → List String
  | last _ _ => []
  | slot _ name rest => name :: rest.names

/-- The literals with texts in the places of the names. -/
def withTexts : Cut → List String → String
  | last literal openEnd, _ => literal ++ openEnd
  | slot literal _ rest, [] => literal ++ rest.withTexts []
  | slot literal _ rest, text :: texts => literal ++ text ++ rest.withTexts texts

/-- The template itself, with its names between braces. -/
def text (cut : Cut) : String := cut.withTexts (cut.names.map fun name => "\x7b" ++ name ++ "\x7d")

variable {cut : Cut} {literal name openEnd : String}

theorem toList_text_last : (last literal openEnd).text.toList = literal.toList ++ openEnd.toList := by
  simp [text, withTexts]

theorem toList_text_slot :
    (slot literal name cut).text.toList =
      literal.toList ++ '\x7b' :: (name.toList ++ '\x7d' :: cut.text.toList) := by
  simp [text, withTexts, names]

/-! ### One cut for each template -/

/-- The induction is on the length of the text: a slot ends behind the brace that opens it. -/
theorem exists_proper (cs : List Char) : ∃ cut : Cut, cut.Proper ∧ cut.text.toList = cs := by
  induction length : cs.length using Nat.strongRecOn generalizing cs with
  | ind n ih =>
    by_cases opened : '\x7b' ∈ cs
    · obtain ⟨literal, after, rfl, bare⟩ := List.eq_append_cons_of_mem opened
      by_cases closed : '\x7d' ∈ after
      · obtain ⟨name, rest, rfl, unclosed⟩ := List.eq_append_cons_of_mem closed
        have shorter : rest.length < n := by
          rw [← length]
          simp only [List.length_append, List.length_cons]
          omega
        obtain ⟨cut, proper, same⟩ := ih rest.length shorter rest rfl
        refine ⟨.slot (String.ofList literal) (String.ofList name) cut, ?_, ?_⟩
        · simpa [Proper] using ⟨bare, unclosed, proper⟩
        · rw [toList_text_slot, same, String.toList_ofList, String.toList_ofList]
      · refine ⟨.last (String.ofList literal) (String.ofList ('\x7b' :: after)), ?_, ?_⟩
        · refine ⟨by simpa using bare, .inr ⟨by simp, ?_⟩⟩
          simpa using closed
        · rw [toList_text_last, String.toList_ofList, String.toList_ofList]
    · refine ⟨.last (String.ofList cs) "", ⟨by simpa using opened, .inl rfl⟩, ?_⟩
      rw [toList_text_last, String.toList_ofList]
      simp

theorem IsOpenEnd.unclosed (h : IsOpenEnd openEnd) : '\x7d' ∉ openEnd.toList := by
  rcases h with rfl | ⟨-, unclosed⟩
  · exact List.not_mem_nil
  · exact unclosed

/-- The literal that a template starts with. -/
def firstLiteral : Cut → String
  | last literal _ => literal
  | slot literal _ _ => literal

/-- The first literal goes up to the first brace. -/
theorem Proper.takeWhile_text (proper : cut.Proper) :
    cut.text.toList.takeWhile (· != '\x7b') = cut.firstLiteral.toList := by
  cases cut with
  | last literal openEnd =>
    obtain ⟨bare, rfl | ⟨starts, -⟩⟩ := proper
    · rw [toList_text_last, String.toList_empty, List.append_nil]
      exact List.takeWhile_eq_self_iff.mpr fun c hc => bne_iff_ne.mpr fun same => bare (same ▸ hc)
    · obtain ⟨inside, split⟩ := List.head?_eq_some_iff.mp starts
      rw [toList_text_last, split, Text.takeWhile_of_not_mem bare]
      rfl
  | slot literal name rest =>
    rw [toList_text_slot, Text.takeWhile_of_not_mem proper.1]
    rfl

theorem Proper.firstLiteral_eq (proper : cut.Proper) {other : Cut} (properOther : other.Proper)
    (same : cut.text = other.text) : cut.firstLiteral = other.firstLiteral := by
  rw [← String.toList_inj, ← proper.takeWhile_text, same, properOther.takeWhile_text]

/-- A template is cut in one way. -/
theorem Proper.eq_of_text_eq (proper : cut.Proper) {other : Cut} (properOther : other.Proper)
    (same : cut.text = other.text) : cut = other := by
  induction cut generalizing other with
  | last literal openEnd =>
    obtain rfl : literal = other.firstLiteral := proper.firstLiteral_eq properOther same
    have chars := congrArg String.toList same
    cases other with
    | last otherLiteral otherEnd =>
      rw [toList_text_last, toList_text_last] at chars
      rw [String.toList_inj.mp (List.append_cancel_left chars)]
      rfl
    | slot otherLiteral otherName otherRest =>
      -- The brace that closes the name would close the open end.
      rw [toList_text_last, toList_text_slot] at chars
      refine absurd ?_ proper.2.unclosed
      rw [List.append_cancel_left chars]
      simp
  | slot literal name rest ih =>
    obtain rfl : literal = other.firstLiteral := proper.firstLiteral_eq properOther same
    have chars := congrArg String.toList same
    cases other with
    | last otherLiteral otherEnd =>
      rw [toList_text_slot, toList_text_last] at chars
      refine absurd ?_ properOther.2.unclosed
      rw [← List.append_cancel_left chars]
      simp
    | slot otherLiteral otherName otherRest =>
      obtain ⟨-, unclosed, proper⟩ := proper
      obtain ⟨-, unclosedOther, properOther⟩ := properOther
      rw [toList_text_slot, toList_text_slot] at chars
      obtain ⟨-, chars⟩ := List.cons.inj (List.append_cancel_left chars)
      obtain ⟨names, rests⟩ := Text.eq_of_append_mark unclosed unclosedOther chars
      rw [String.toList_inj.mp names, ih proper properOther (String.toList_inj.mp rests)]
      rfl

theorem existsUnique_cut (template : String) : ∃! cut : Cut, cut.Proper ∧ cut.text = template := by
  obtain ⟨cut, proper, same⟩ := exists_proper template.toList
  refine ⟨cut, ⟨proper, String.toList_inj.mp same⟩, fun other h => ?_⟩
  exact h.1.eq_of_text_eq proper (h.2.trans (String.toList_inj.mp same).symm)

/-! ### Filling -/

/-- The pieces of a cut template. -/
def pieces : Cut → List Piece
  | last literal openEnd => (literal ++ openEnd).toList.map .literal
  | slot literal name rest => literal.toList.map .literal ++ .slot name :: rest.pieces

/-- A brace that is not closed stands for itself, with all that follows. -/
theorem piecesFrom_unclosed {cs : List Char} (h : '\x7d' ∉ cs) (under : List Char) :
    piecesFrom (some under) cs = .literal '\x7b' :: (under.reverse ++ cs).map .literal := by
  induction cs generalizing under with
  | nil => simp [piecesFrom]
  | cons c cs ih =>
    have hc : c ≠ '\x7d' := fun hc => h (hc ▸ List.mem_cons_self ..)
    have hcs : '\x7d' ∉ cs := fun hcs => h (List.mem_cons_of_mem _ hcs)
    rw [piecesFrom, if_neg hc, ih hcs]
    simp

theorem piecesFrom_openEnd (h : IsOpenEnd openEnd) :
    piecesFrom none openEnd.toList = openEnd.toList.map .literal := by
  rcases h with rfl | ⟨starts, unclosed⟩
  · rfl
  · obtain ⟨inside, split⟩ := List.head?_eq_some_iff.mp starts
    rw [split] at unclosed ⊢
    rw [piecesFrom, if_pos rfl, piecesFrom_unclosed fun h => unclosed (List.mem_cons_of_mem _ h)]
    rfl

theorem Proper.pieces_text (proper : cut.Proper) : Template.pieces cut.text = cut.pieces := by
  rw [Template.pieces]
  induction cut with
  | last literal openEnd =>
    obtain ⟨bare, ends⟩ := proper
    rw [toList_text_last, piecesFrom_literals bare, piecesFrom_openEnd ends, pieces, String.toList_append,
      List.map_append]
  | slot literal name rest ih =>
    obtain ⟨bare, unclosed, proper⟩ := proper
    have named := piecesFrom_name unclosed [] rest.text.toList
    rw [toList_text_slot, piecesFrom_literals bare, piecesFrom, if_pos rfl, named, ih proper, pieces]
    simp

variable {slots : Slots}

theorem fillPieces_slot (name : String) (rest : List Piece) :
    fillPieces slots (.slot name :: rest) =
      match slots.get? name with
      | some value => (fillPieces slots rest).map (value ++ ·)
      | none => .error name := by
  rw [fillPieces, Piece.resolve]
  cases slots.get? name <;> rfl

/-- Each name gives way to its value. -/
theorem fillPieces_eq_ok_iff {filled : String} :
    fillPieces slots cut.pieces = .ok filled ↔
      ∃ values, cut.names.map slots.get? = values.map some ∧ cut.withTexts values = filled := by
  induction cut generalizing filled with
  | last literal openEnd =>
    rw [pieces, fillPieces_only_literals]
    simp [names, withTexts]
  | slot literal name rest ih =>
    rw [pieces, fillPieces_literals, map_eq_ok_iff, fillPieces_slot]
    cases valued : slots.get? name with
    | none =>
      refine iff_of_false nofun ?_
      rintro ⟨values, all, -⟩
      cases values <;> simp [names, valued] at all
    | some value =>
      simp only [map_eq_ok_iff, ih]
      constructor
      · rintro ⟨_, ⟨_, ⟨values, all, rfl⟩, rfl⟩, rfl⟩
        exact ⟨value :: values, by simp [names, valued, all], by simp [withTexts, String.append_assoc]⟩
      · rintro ⟨values, all, rfl⟩
        cases values with
        | nil => simp [names] at all
        | cons first values =>
          simp only [names, List.map_cons, valued, List.cons.injEq, Option.some.injEq] at all
          obtain ⟨rfl, all⟩ := all
          exact ⟨_, ⟨_, ⟨values, all, rfl⟩, rfl⟩, by simp [withTexts, String.append_assoc]⟩

/-- The first name without a value is what a filling fails for. -/
theorem fillPieces_eq_error_iff {unvalued : String} :
    fillPieces slots cut.pieces = .error unvalued ↔
      cut.names.find? (fun name => (slots.get? name).isNone) = some unvalued := by
  induction cut with
  | last literal openEnd =>
    rw [pieces, fillPieces_only_literals]
    exact iff_of_false nofun nofun
  | slot literal name rest ih =>
    rw [pieces, fillPieces_literals, map_eq_error_iff, fillPieces_slot, names, List.find?_cons]
    cases slots.get? name with
    | none => simp
    | some value => simp [map_eq_error_iff, ih]

/-- **Filling puts values in the places of names.** A template is cut at its slots in one way. If every name has a
value, the values take the places of the names, and all else is kept as it is, whatever braces are in the values. If
not, the filling fails for the first name that has none. -/
theorem fill_cut (template : String) :
    (∃! cut : Cut, cut.Proper ∧ cut.text = template) ∧
    ∀ cut : Cut, cut.Proper → cut.text = template → ∀ (slots : Slots) (field : String),
      (∀ filled, fill template slots field = .ok filled ↔
        ∃ values, cut.names.map slots.get? = values.map some ∧ cut.withTexts values = filled) ∧
      (∀ error, fill template slots field = .error error ↔
        ∃ name, cut.names.find? (fun name => (slots.get? name).isNone) = some name ∧
          error = .unresolvedSlot field name template) := by
  refine ⟨existsUnique_cut template, fun cut proper same slots field => ⟨fun filled => ?_, fun error => ?_⟩⟩
  · rw [fill_eq_ok_iff, ← same, proper.pieces_text, fillPieces_eq_ok_iff]
  · rw [fill_eq_error_iff, ← same, proper.pieces_text]
    simp only [fillPieces_eq_error_iff]

/-- A value with braces is no slot, and neither is the open end. Without a value, the second slot is to blame, though
the brace behind it is never closed. -/
theorem fill_cut_braces :
    let template := "\x7bcolumn\x7d, \x7bmax_length\x7d or \x7bopen\x7b"
    let cut : Cut := .slot "" "column" (.slot ", " "max_length" (.last " or " "\x7bopen\x7b"))
    let column := "\x7bmax_length\x7d"
    cut.Proper ∧ cut.text = template ∧
      fill template { column := some column, maxLength := some 7 } "title" =
        .ok "\x7bmax_length\x7d, 7 or \x7bopen\x7b" ∧
      fill template { column := some column } "title" = .error (.unresolvedSlot "title" "max_length" template) := by
  intro template cut column
  have proper : cut.Proper := by simp [cut, Proper, IsOpenEnd]
  have same : cut.text = template := by decide
  have filled := (fill_cut template).2 cut proper same
  refine ⟨proper, same, ((filled _ "title").1 _).mpr ?_, ((filled _ "title").2 _).mpr ?_⟩
  · exact ⟨[column, "7"], by decide, by decide⟩
  · exact ⟨"max_length", by decide, rfl⟩

end Cut

end EntityGen.Template
