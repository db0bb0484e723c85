import EntityGen.Proofs.Entity.Becomes
import EntityGen.Proofs.Render.Go.ColumnLines

/-!
Choices in the line of a stored field. The values that a field may have are told to a validator as one item, with
spaces between them. So the item tells the words of the values and not the values: one value of two words is told as
two values (`line_eq_iff_words`). -/
namespace EntityGen.Go
open Text

/-- The field with choices of its own. -/
def choosing (field : Field) (choices : List String) : Field := { field with choices }

/-- The item of choices stands alone among the items of rules. -/
theorem filterMap_oneOf_rules {field : Field} {choices : List String} (some : choices ≠ []) :
    (choosing field choices).rules.filterMap oneOf? = ["oneof=" ++ sepBy " " choices] := by
  have kindless (kind : Kind) : (Field.kindRules kind).filterMap oneOf? = [] := by
    cases kind <;> rfl
  have chosen : (choosing field choices).choices.isEmpty = false := by simpa [choosing] using some
  rw [Field.rules, chosen, List.filterMap_append]
  cases (choosing field choices).kind? with
  | none => rfl
  | some kind =>
    rw [kindless]
    rfl

/-- Choices are nothing but a rule of the column. -/
theorem toColumn_choosing {field : Field} {choices : List String} {c : Column}
    (h : (choosing field choices).toColumn = .ok c) :
    ∃ plain, field.toColumn = .ok plain ∧ c = { plain with rules := (choosing field choices).rules } := by
  obtain ⟨kind, value, known, valued, rfl⟩ := Field.toColumn_eq_ok_iff.mp h
  exact ⟨_, Field.toColumn_eq_ok_iff.mpr ⟨kind, value, known, valued, rfl⟩, rfl⟩

/-- Of the member of a field, the choices decide the text of one item. -/
theorem member_of_choices {field : Field} {plain c : Column} {choices : List String} {m : Member}
    (made : field.toColumn = .ok plain) (some : choices ≠ []) (hc : (choosing field choices).toColumn = .ok c)
    (hm : columnMember c = .ok m) :
    m = .tagged (Identifier.go plain.name) (Mapping.go plain.kind).type
      ((asked plain).toList ++ columnStorage plain)
      ((Mapping.go plain.kind).validation.toList ++ maxItems plain ++
        ("oneof=" ++ sepBy " " choices) :: onlyIf plain.required "required") := by
  obtain ⟨plain', made', rfl⟩ := toColumn_choosing hc
  cases made.symm.trans made'
  rw [eq_of_columnMember hm, columnValidation_eq, filterMap_oneOf_rules some]
  simp only [List.append_assoc, List.singleton_append]
  rfl

/-- **A line tells the words of the choices.** A stored field has the same line with two lists of choices exactly if
the lists are the same once every value is cut at its spaces. So lists of values without spaces are told apart. -/
theorem line_eq_iff_words {options : Options} (validates : options.validationTags = true) {field : Field}
    {first second : List String} (hf : first ≠ []) (hs : second ≠ []) {c d : Column}
    (hc : (choosing field first).toColumn = .ok c) (hd : (choosing field second).toColumn = .ok d) {m n : Member}
    (hm : columnMember c = .ok m) (hn : columnMember d = .ok n) :
    (m.line options = n.line options ↔ first.flatMap (cutAt ' ') = second.flatMap (cutAt ' ')) ∧
      ((∀ value ∈ first ++ second, ' ' ∉ value.toList) → (m.line options = n.line options ↔ first = second)) := by
  obtain ⟨plain, made, -⟩ := toColumn_choosing hc
  have told : m.line options = n.line options ↔ first.flatMap (cutAt ' ') = second.flatMap (cutAt ' ') := by
    rw [member_of_choices made hf hc hm, member_of_choices made hs hd hn]
    constructor
    · intro same
      obtain ⟨-, text⟩ := validation_of_line_eq validates same
      obtain ⟨before, after, around⟩ := exists_sepBy_around ","
        ((Mapping.go plain.kind).validation.toList ++ maxItems plain) (onlyIf plain.required "required")
      rw [around, around, String.append_left_inj, String.append_right_inj, String.append_right_inj] at text
      exact (sepBy_eq_iff hf hs).mp text
    · intro words
      have text : sepBy " " first = sepBy " " second := (sepBy_eq_iff hf hs).mpr words
      rw [text]
  refine ⟨told, fun single => ?_⟩
  rw [told, flatMap_cutAt_of_not_mem fun value hv => single value (List.mem_append_left _ hv),
    flatMap_cutAt_of_not_mem fun value hv => single value (List.mem_append_right _ hv)]

/-- The state of a task, which may be one of some words. -/
def taskState : Field := { name := "status", kind := "CharField", maxLength := some 20, blank := false }

theorem exists_member_of_taskState (choices : List String) :
    ∃ c m, (choosing taskState choices).toColumn = .ok c ∧ columnMember c = .ok m := by
  obtain ⟨m, hm⟩ := exists_columnMember_iff_complete.mpr
    (show Complete (.column ⟨"status", "status", false, .char, .string, .none, (choosing taskState choices).rules,
      some 20, false, false, false, true⟩) from ⟨rfl, fun _ => rfl⟩)
  exact ⟨_, m, Field.toColumn_eq_ok_iff.mpr ⟨.char, .string, rfl, rfl, rfl⟩, hm⟩

theorem line_eq_iff_words_taskState :
    ∃ c d m n, (choosing taskState ["open", "done"]).toColumn = .ok c ∧
      (choosing taskState ["open", "closed"]).toColumn = .ok d ∧ columnMember c = .ok m ∧ columnMember d = .ok n ∧
      Options.tagged.validationTags = true ∧ m.line .tagged ≠ n.line .tagged := by
  obtain ⟨c, m, hc, hm⟩ := exists_member_of_taskState ["open", "done"]
  obtain ⟨d, n, hd, hn⟩ := exists_member_of_taskState ["open", "closed"]
  have told := (@line_eq_iff_words .tagged rfl _ _ _ (List.cons_ne_nil _ _) (List.cons_ne_nil _ _) _ _ hc hd _ _ hm
    hn).2 (by decide)
  exact ⟨c, d, m, n, hc, hd, hm, hn, rfl, fun same => absurd (told.mp same) (by decide)⟩

/-- A value of two words is told as two values. -/
theorem one_line_for_two_choices :
    ["in progress", "done"] ≠ ["in", "progress", "done"] ∧
      ∃ c d m n, (choosing taskState ["in progress", "done"]).toColumn = .ok c ∧
        (choosing taskState ["in", "progress", "done"]).toColumn = .ok d ∧
        columnMember c = .ok m ∧ columnMember d = .ok n ∧ m.line .tagged = n.line .tagged := by
  obtain ⟨c, m, hc, hm⟩ := exists_member_of_taskState ["in progress", "done"]
  obtain ⟨d, n, hd, hn⟩ := exists_member_of_taskState ["in", "progress", "done"]
  obtain ⟨plain, made, -⟩ := toColumn_choosing hc
  have text : sepBy " " ["in progress", "done"] = sepBy " " ["in", "progress", "done"] := by decide
  refine ⟨by decide, c, d, m, n, hc, hd, hm, hn, ?_⟩
  rw [member_of_choices made (List.cons_ne_nil _ _) hc hm, member_of_choices made (List.cons_ne_nil _ _) hd hn, text]

end EntityGen.Go
