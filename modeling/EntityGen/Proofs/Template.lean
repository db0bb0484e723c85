import EntityGen.Template
import EntityGen.Proofs.Sequence
import EntityGen.Proofs.Text.Nesting

/-!
What filling a template does to its text. A template without braces is its own text (`fill_bare`), and one
with a slot is what stands before the slot, the value, and what the rest of the template becomes
(`fill_mark_eq_ok_iff`). Whatever the template, it can be filled exactly if each of its slots has a value
(`exists_fill_iff`), and a structural property of its literals and of the values is one of the text
(`held_fill`). -/
namespace EntityGen.Template
variable {slots : Slots}

/-! ### Pieces -/

theorem piecesFrom_literals {l : List Char} (h : '\x7b' ∉ l) (rest : List Char) :
    piecesFrom none (l ++ rest) = l.map .literal ++ piecesFrom none rest := by
  induction l with
  | nil => rfl
  | cons c l ih =>
    have hc : c ≠ '\x7b' := fun hc => h (hc ▸ List.mem_cons_self ..)
    have hl : '\x7b' ∉ l := fun hl => h (List.mem_cons_of_mem _ hl)
    rw [List.cons_append, piecesFrom, if_neg hc, ih hl]
    rfl

theorem piecesFrom_name {l : List Char} (h : '\x7d' ∉ l) (under rest : List Char) :
    piecesFrom (some under) (l ++ '\x7d' :: rest) =
      .slot (String.ofList (under.reverse ++ l)) :: piecesFrom none rest := by
  induction l generalizing under with
  | nil => simp [piecesFrom]
  | cons c l ih =>
    have hc : c ≠ '\x7d' := fun hc => h (hc ▸ List.mem_cons_self ..)
    have hl : '\x7d' ∉ l := fun hl => h (List.mem_cons_of_mem _ hl)
    rw [List.cons_append, piecesFrom, if_neg hc, ih hl]
    simp

theorem piecesFrom_mark (slot : Slot) (rest : List Char) :
    piecesFrom none (slot.mark.toList ++ rest) = .slot slot.name :: piecesFrom none rest := by
  have unbraced : '\x7d' ∉ slot.name.toList := by cases slot <;> decide
  have mark : slot.mark.toList = '\x7b' :: (slot.name.toList ++ ['\x7d']) := by
    simp [Slot.mark]
  have name := piecesFrom_name unbraced [] rest
  rw [mark, List.cons_append, List.append_assoc, piecesFrom, if_pos rfl]
  simpa using name

/-- Literals never fail. -/
theorem fillPieces_literals (l : List Char) (rest : List Piece) :
    fillPieces slots (l.map .literal ++ rest) =
      (fillPieces slots rest).map (String.ofList l ++ ·) := by
  induction l with
  | nil => cases h : fillPieces slots rest <;> simp [h, Except.map]
  | cons c l ih =>
    rw [List.map_cons, List.cons_append, fillPieces, Piece.resolve, ih]
    cases fillPieces slots rest with
    | error name => rfl
    | ok text =>
      have joined : String.singleton c ++ (String.ofList l ++ text) = String.ofList (c :: l) ++ text := by
        rw [← String.toList_inj]
        simp
      simp only [Except.map, joined]

theorem fillPieces_only_literals (l : List Char) :
    fillPieces slots (l.map .literal) = .ok (String.ofList l) := by
  have filled := @fillPieces_literals slots l []
  rw [List.append_nil] at filled
  simpa [fillPieces, Except.map] using filled

/-! ### Templates -/

theorem pieces_bare {template : String} (h : '\x7b' ∉ template.toList) :
    pieces template = template.toList.map .literal := by
  have cut := piecesFrom_literals h []
  rwa [List.append_nil, piecesFrom, List.append_nil] at cut

theorem pieces_mark {before : String} (h : '\x7b' ∉ before.toList) (slot : Slot) (rest : String) :
    pieces (before ++ slot.mark ++ rest) =
      before.toList.map .literal ++ .slot slot.name :: pieces rest := by
  rw [pieces, pieces, String.toList_append, String.toList_append, List.append_assoc, piecesFrom_literals h,
    piecesFrom_mark]

theorem fill_eq_ok_iff {template field text : String} :
    fill template slots field = .ok text ↔ fillPieces slots (pieces template) = .ok text := by
  unfold fill
  cases fillPieces slots (pieces template) <;> simp

theorem fill_bare {template : String} (h : '\x7b' ∉ template.toList) (field : String) :
    fill template slots field = .ok template := by
  rw [fill, pieces_bare h, fillPieces_only_literals, String.ofList_toList]

section Slots
variable {before after rest field text : String} {slot : Slot}

/-- The first slot: its value, and then the template that stands behind it. -/
theorem fill_mark_eq_ok_iff (h : '\x7b' ∉ before.toList) :
    fill (before ++ slot.mark ++ rest) slots field = .ok text ↔
      ∃ value, slots.value? slot = some value ∧
        ∃ filled, fill rest slots field = .ok filled ∧ before ++ value ++ filled = text := by
  simp only [fill_eq_ok_iff]
  rw [pieces_mark h, fillPieces_literals, map_eq_ok_iff, fillPieces, Piece.resolve, Slots.get?_name]
  cases slots.value? slot with
  | none => simp
  | some value => simp [map_eq_ok_iff, String.append_assoc]

/-- A single slot: its value between what stands around it. -/
theorem fill_around_eq_ok_iff (hb : '\x7b' ∉ before.toList) (ha : '\x7b' ∉ after.toList) :
    fill (before ++ slot.mark ++ after) slots field = .ok text ↔
      ∃ value, slots.value? slot = some value ∧ before ++ value ++ after = text := by
  simp [fill_mark_eq_ok_iff hb, fill_bare ha]

theorem fill_around_of_some {value : String} (hb : '\x7b' ∉ before.toList) (ha : '\x7b' ∉ after.toList)
    (valued : slots.value? slot = some value) :
    fill (before ++ slot.mark ++ after) slots field = .ok (before ++ value ++ after) :=
  (fill_around_eq_ok_iff hb ha).mpr ⟨value, valued, rfl⟩

theorem fill_last_eq_ok_iff (hb : '\x7b' ∉ before.toList) :
    fill (before ++ slot.mark) slots field = .ok text ↔
      ∃ value, slots.value? slot = some value ∧ before ++ value = text := by
  have around := @fill_around_eq_ok_iff slots before "" field text slot hb (by decide)
  simpa using around

theorem fill_alone_eq_ok_iff :
    fill slot.mark slots field = .ok text ↔ slots.value? slot = some text := by
  have last := @fill_last_eq_ok_iff slots "" field text slot (by decide)
  simpa using last

/-! #### Slots without a value -/

theorem fill_eq_error_iff {template : String} {error : SchemaError} :
    fill template slots field = .error error ↔
      ∃ name, fillPieces slots (pieces template) = .error name ∧ error = .unresolvedSlot field name template := by
  unfold fill
  cases fillPieces slots (pieces template) <;> simp [eq_comm]

/-- The first slot fails or, if it has a value, one that stands behind it. -/
theorem fillPieces_mark_eq_error_iff {name : String} (h : '\x7b' ∉ before.toList) :
    fillPieces slots (pieces (before ++ slot.mark ++ rest)) = .error name ↔
      slots.value? slot = none ∧ name = slot.name ∨
        (slots.value? slot).isSome ∧ fillPieces slots (pieces rest) = .error name := by
  rw [pieces_mark h, fillPieces_literals, map_eq_error_iff, fillPieces, Piece.resolve, Slots.get?_name]
  cases slots.value? slot with
  | none => simp [eq_comm]
  | some value => simp [map_eq_error_iff]

theorem fill_around_of_none (h : '\x7b' ∉ before.toList) (none : slots.value? slot = none) :
    fill (before ++ slot.mark ++ after) slots field =
      .error (.unresolvedSlot field slot.name (before ++ slot.mark ++ after)) :=
  fill_eq_error_iff.mpr ⟨slot.name, (fillPieces_mark_eq_error_iff h).mpr (.inl ⟨none, rfl⟩), rfl⟩

theorem fillPieces_last_of_none (h : '\x7b' ∉ before.toList) (none : slots.value? slot = none) :
    fillPieces slots (pieces (before ++ slot.mark)) = .error slot.name := by
  have mark := (@fillPieces_mark_eq_error_iff slots before "" slot slot.name h).mpr (.inl ⟨none, rfl⟩)
  rwa [String.append_empty] at mark

theorem fill_last_of_none (h : '\x7b' ∉ before.toList) (none : slots.value? slot = none) :
    fill (before ++ slot.mark) slots field = .error (.unresolvedSlot field slot.name (before ++ slot.mark)) :=
  fill_eq_error_iff.mpr ⟨slot.name, fillPieces_last_of_none h none, rfl⟩

theorem fill_alone_of_none (none : slots.value? slot = none) :
    fill slot.mark slots field = .error (.unresolvedSlot field slot.name slot.mark) := by
  have last := @fill_last_of_none slots "" field slot (by decide) none
  simpa using last

end Slots

/-! ### Which templates can be filled -/

/-- The names of the slots of a template. -/
def slotNames (template : String) : List String :=
  (pieces template).filterMap fun
    | .slot name => some name
    | .literal _ => none

theorem resolve_slot_eq_ok_iff {name text : String} :
    (Piece.slot name).resolve slots = .ok text ↔ slots.get? name = some text := by
  cases h : slots.get? name <;> simp [Piece.resolve, h]

theorem exists_resolve_iff {p : Piece} :
    (∃ text, p.resolve slots = .ok text) ↔ ∀ name, p = .slot name → (slots.get? name).isSome := by
  cases p with
  | literal c => simp [Piece.resolve]
  | slot name => simp [resolve_slot_eq_ok_iff, Option.isSome_iff_exists]

theorem exists_fillPieces_iff {ps : List Piece} :
    (∃ text, fillPieces slots ps = .ok text) ↔
      ∀ name, .slot name ∈ ps → (slots.get? name).isSome := by
  induction ps with
  | nil => exact ⟨fun _ => nofun, fun _ => ⟨"", rfl⟩⟩
  | cons p ps ih =>
    have both : (∃ text, fillPieces slots (p :: ps) = .ok text) ↔
        (∃ text, p.resolve slots = .ok text) ∧ ∃ text, fillPieces slots ps = .ok text := by
      rw [fillPieces]
      cases p.resolve slots with
      | error name => simp
      | ok text => simp [exists_map_eq_ok_iff]
    rw [both, ih, exists_resolve_iff]
    simp only [List.mem_cons]
    constructor
    · intro h name hn
      rcases hn with hn | hn
      · exact h.1 name hn.symm
      · exact h.2 name hn
    · intro h
      exact ⟨fun name hn => h name (.inl hn.symm), fun name hn => h name (.inr hn)⟩

theorem mem_slotNames {template name : String} :
    name ∈ slotNames template ↔ .slot name ∈ pieces template := by
  rw [slotNames, List.mem_filterMap]
  constructor
  · intro h
    obtain ⟨p, hp, hn⟩ := h
    cases p with
    | literal c => exact nomatch hn
    | slot other => exact Option.some.inj hn ▸ hp
  · intro h
    exact ⟨_, h, rfl⟩

/-- A template can be filled exactly if every slot of it has a value. -/
theorem exists_fill_iff {template field : String} :
    (∃ text, fill template slots field = .ok text) ↔
      ∀ name ∈ slotNames template, (slots.get? name).isSome := by
  simp only [fill_eq_ok_iff, exists_fillPieces_iff, mem_slotNames]

/-! ### Values put in -/

/-- The literal characters of pieces. -/
def literals (ps : List Piece) : String :=
  String.ofList <| ps.filterMap fun
    | .literal c => some c
    | .slot _ => none

/-- A template with nothing in its slots. -/
def skeleton (template : String) : String := literals (pieces template)

theorem literals_literal (c : Char) (ps : List Piece) :
    literals (.literal c :: ps) = String.singleton c ++ literals ps := by
  rw [← String.toList_inj]
  simp [literals]

theorem literals_slot (name : String) (ps : List Piece) : literals (.slot name :: ps) = literals ps := rfl

section Structural
variable {P : String → Prop} (hP : Text.Structural P)
include hP

/-- The induction is on the pieces that are still to be filled, behind the text that is already there. -/
theorem held_fillPieces {ps : List Piece} {text : String} (filled : fillPieces slots ps = .ok text)
    (values : ∀ slot value, slots.value? slot = some value → P value) (before : String)
    (h : P (before ++ literals ps)) : P (before ++ text) := by
  induction ps generalizing text before with
  | nil =>
    cases filled
    exact h
  | cons p ps ih =>
    rw [fillPieces] at filled
    cases hp : p.resolve slots with
    | error name =>
      rw [hp] at filled
      exact nomatch filled
    | ok first =>
      rw [hp] at filled
      obtain ⟨rest, hrest, rfl⟩ := map_eq_ok_iff.mp filled
      rw [← String.append_assoc]
      refine ih hrest (before ++ first) ?_
      cases p with
      | literal c =>
        cases hp
        rwa [literals_literal, ← String.append_assoc] at h
      | slot name =>
        rw [resolve_slot_eq_ok_iff, Slots.get?, Option.bind_eq_some_iff] at hp
        obtain ⟨slot, -, value⟩ := hp
        rw [literals_slot] at h
        exact hP.insert h (values slot first value)

/-- A structural property of the skeleton and of the values is one of the filled template. -/
theorem held_fill {template field text : String} (filled : fill template slots field = .ok text)
    (h : P (skeleton template)) (values : ∀ slot value, slots.value? slot = some value → P value) : P text := by
  have whole := held_fillPieces hP (fill_eq_ok_iff.mp filled) values "" (by simpa [skeleton] using h)
  simpa using whole

end Structural

end EntityGen.Template
