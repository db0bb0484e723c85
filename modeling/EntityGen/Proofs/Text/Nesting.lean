import EntityGen.Proofs.Identifier.Characters
import EntityGen.Proofs.Text.Lines

/-!
Brackets and quotation marks. `Nested` reads a text with the brackets that are still to be closed and asks
that none is left and none closed out of order; `Paired` counts quotation marks. A text that is nested can be
put into another anywhere (`Nested.due`, `Nested.insert`). A `Clean` text is both, in one line and without
braces. `Structural` is what this has in common with other properties of texts that are put together, so that
one walk over what a renderer writes serves all of them. -/
namespace EntityGen.Text

/-! ### Brackets -/

/-- The bracket that closes an opening one. -/
def closing? : Char → Option Char
  | '(' => some ')'
  | '[' => some ']'
  | '\x7b' => some '\x7d'
  | _ => none

/-- The brackets to be closed after a character, innermost first; nothing if the character is a closing bracket
and not the one that comes next. -/
def dueAfter (due : List Char) (c : Char) : Option (List Char) :=
  match closing? c with
  | some closing => some (closing :: due)
  | none =>
    if c ∈ [')', ']', '\x7d'] then
      match due with
      | [] => none
      | next :: due => if c = next then some due else none
    else some due

/-- The brackets to be closed after a text. -/
def due (outer : List Char) (s : List Char) : Option (List Char) := s.foldlM dueAfter outer

/-- Every bracket of the text is closed in it, and within what it is opened in. -/
def Nested (s : String) : Prop := due [] s.toList = some []

instance (s : String) : Decidable (Nested s) := inferInstanceAs (Decidable (_ = _))

example : Nested "f(a[1], \x7bb\x7d)" ∧ ¬ Nested "([)]" ∧ ¬ Nested "(" ∧ ¬ Nested ")(" := by decide

theorem due_append (outer s t : List Char) : due outer (s ++ t) = (due outer s).bind (due · t) := by
  rw [due, List.foldlM_append]
  rfl

/-- What is to be closed further out does not matter. -/
theorem dueAfter_append {inner later : List Char} {c : Char} (h : dueAfter inner c = some later)
    (outer : List Char) : dueAfter (inner ++ outer) c = some (later ++ outer) := by
  unfold dueAfter at *
  cases hc : closing? c with
  | some closing =>
    rw [hc] at h
    cases h
    rfl
  | none =>
    by_cases closes : c ∈ [')', ']', '\x7d']
    · simp only [hc, if_pos closes] at h ⊢
      cases inner with
      | nil => cases h
      | cons next inner =>
        by_cases fits : c = next
        · simp only [if_pos fits, Option.some.injEq] at h
          simp [fits, h]
        · simp [fits] at h
    · simp only [hc, if_neg closes, Option.some.injEq] at h ⊢
      rw [h]

theorem due_append_outer {inner later s : List Char} (h : due inner s = some later) (outer : List Char) :
    due (inner ++ outer) s = some (later ++ outer) := by
  -- the text may open and close as it goes on, so what is due inside varies
  induction s generalizing inner with
  | nil =>
    cases h
    rfl
  | cons c s ih =>
    obtain ⟨next, step, rest⟩ := Option.bind_eq_some_iff.mp h
    exact Option.bind_eq_some_iff.mpr ⟨next ++ outer, dueAfter_append step outer, ih rest⟩

/-- A nested text leaves what is to be closed as it is. -/
theorem Nested.due {s : String} (h : Nested s) (outer : List Char) : Text.due outer s.toList = some outer :=
  due_append_outer h outer

theorem Nested.insert {before s after : String} (around : Nested (before ++ after)) (inner : Nested s) :
    Nested (before ++ s ++ after) := by
  unfold Nested at around
  rw [String.toList_append, due_append] at around
  obtain ⟨opened, reached, rest⟩ := Option.bind_eq_some_iff.mp around
  rw [Nested, String.toList_append, String.toList_append, due_append, due_append, reached, Option.bind_some,
    inner.due, Option.bind_some, rest]

theorem Nested.append {s t : String} (hs : Nested s) (ht : Nested t) : Nested (s ++ t) := by
  have inserted := @Nested.insert s t "" (by simpa using hs) ht
  simpa using inserted

/-- Nested lines are a nested text. -/
theorem nested_unlines {ls : List String} (h : ∀ l ∈ ls, Nested l) : Nested (unlines ls) := by
  have lineBreak : Nested "\n" := by decide
  induction ls with
  | nil => decide
  | cons l ls ih =>
    rw [unlines_cons]
    exact ((h l (List.mem_cons_self ..)).append lineBreak).append (ih fun s hs => h s (List.mem_cons_of_mem _ hs))

/-! ### Quotation marks -/

/-- Double quotes and backticks come in pairs. -/
def Paired (s : String) : Prop := 2 ∣ s.toList.count '"' ∧ 2 ∣ s.toList.count '`'

instance (s : String) : Decidable (Paired s) := inferInstanceAs (Decidable (_ ∧ _))

theorem Paired.insert {before s after : String} (around : Paired (before ++ after)) (inner : Paired s) :
    Paired (before ++ s ++ after) := by
  unfold Paired at *
  simp only [String.toList_append, List.count_append] at *
  omega

/-- Quotation marks come in pairs, and there are no braces. -/
structure Tidy (s : String) : Prop where
  paired : Paired s
  opening : '\x7b' ∉ s.toList
  closing : '\x7d' ∉ s.toList

instance (s : String) : Decidable (Tidy s) :=
  decidable_of_iff (Paired s ∧ '\x7b' ∉ s.toList ∧ '\x7d' ∉ s.toList)
    ⟨fun ⟨paired, opening, closing⟩ => ⟨paired, opening, closing⟩, fun h => ⟨h.paired, h.opening, h.closing⟩⟩

theorem Tidy.insert {before s after : String} (around : Tidy (before ++ after)) (inner : Tidy s) :
    Tidy (before ++ s ++ after) := by
  obtain ⟨paired, opening, closing⟩ := around
  refine ⟨paired.insert inner.paired, ?_, ?_⟩
  · simp only [String.toList_append, List.mem_append, not_or] at opening ⊢
    exact ⟨⟨opening.1, inner.opening⟩, opening.2⟩
  · simp only [String.toList_append, List.mem_append, not_or] at closing ⊢
    exact ⟨⟨closing.1, inner.closing⟩, closing.2⟩

/-! ### Clean texts -/

/-- The brackets. -/
def brackets : List Char := ['(', ')', '[', ']', '\x7b', '\x7d']

/-- The characters that declarations are structured by. -/
def marks : List Char := brackets ++ ['"', '`', '\n']

/-- The text has none of them. -/
def Plain (s : String) : Prop := ∀ c ∈ s.toList, c ∉ marks

instance (s : String) : Decidable (Plain s) := List.decidableBAll _ s.toList

theorem dueAfter_of_not_bracket {c : Char} (h : c ∉ brackets) (outer : List Char) :
    dueAfter outer c = some outer := by
  have none_closes : closing? c = none := by
    unfold closing?
    split
    · exact absurd (by decide) h
    · exact absurd (by decide) h
    · exact absurd (by decide) h
    · rfl
  have not_closing : c ∉ [')', ']', '\x7d'] := fun closing => h (by simp_all [brackets])
  unfold dueAfter
  rw [none_closes]
  exact if_neg not_closing

theorem due_of_not_bracket {s : List Char} (h : ∀ c ∈ s, c ∉ brackets) (outer : List Char) :
    due outer s = some outer := by
  induction s with
  | nil => rfl
  | cons c s ih =>
    have skipped := dueAfter_of_not_bracket (h c (List.mem_cons_self ..)) outer
    exact Option.bind_eq_some_iff.mpr ⟨outer, skipped, ih fun d hd => h d (List.mem_cons_of_mem _ hd)⟩

/-- A text that can stand within a line: tidy, every bracket closed, and no line break. -/
structure Clean (s : String) : Prop where
  oneLine : OneLine s
  nested : Nested s
  tidy : Tidy s

instance (s : String) : Decidable (Clean s) :=
  decidable_of_iff (OneLine s ∧ Nested s ∧ Tidy s)
    ⟨fun ⟨one, nested, tidy⟩ => ⟨one, nested, tidy⟩, fun h => ⟨h.oneLine, h.nested, h.tidy⟩⟩

theorem Plain.clean {s : String} (h : Plain s) : Clean s where
  oneLine hb := h _ hb (by decide)
  nested := due_of_not_bracket (fun c hc mem => h c hc (List.mem_append_left _ mem)) []
  tidy := by
    have double : s.toList.count '"' = 0 := List.count_eq_zero.mpr fun hc => h _ hc (by decide)
    have backtick : s.toList.count '`' = 0 := List.count_eq_zero.mpr fun hc => h _ hc (by decide)
    refine ⟨?_, fun hb => h _ hb (by decide), fun hb => h _ hb (by decide)⟩
    rw [Paired, double, backtick]
    decide

theorem Clean.insert {before s after : String} (around : Clean (before ++ after)) (inner : Clean s) :
    Clean (before ++ s ++ after) where
  oneLine := around.oneLine.insert inner.oneLine
  nested := around.nested.insert inner.nested
  tidy := around.tidy.insert inner.tidy

/-- No mark is exchanged, nor put for another character. -/
def KeepsMarks (f : Char → Char) : Prop := ∀ c, f c = c ∨ c ∉ marks ∧ f c ∉ marks

theorem KeepsMarks.eq_iff {f : Char → Char} (h : KeepsMarks f) {mark : Char} (hm : mark ∈ marks) (c : Char) :
    f c = mark ↔ c = mark := by
  rcases h c with same | ⟨before, after⟩
  · rw [same]
  · exact iff_of_false (fun eq => after (eq ▸ hm)) fun eq => before (eq ▸ hm)

theorem KeepsMarks.mem_iff {f : Char → Char} (h : KeepsMarks f) {mark : Char} (hm : mark ∈ marks) (s : String) :
    mark ∈ (s.map f).toList ↔ mark ∈ s.toList := by
  simp [String.toList_map, h.eq_iff hm]

theorem KeepsMarks.count_eq {f : Char → Char} (h : KeepsMarks f) {mark : Char} (hm : mark ∈ marks) (s : String) :
    (s.map f).toList.count mark = s.toList.count mark := by
  rw [String.toList_map, List.count, List.countP_map]
  exact List.countP_congr fun c _ => by simp [h.eq_iff hm]

theorem KeepsMarks.due_eq {f : Char → Char} (h : KeepsMarks f) (outer s : List Char) :
    due outer (s.map f) = due outer s := by
  have step : ∀ outer c, dueAfter outer (f c) = dueAfter outer c := by
    intro outer c
    rcases h c with same | ⟨before, after⟩
    · rw [same]
    · rw [dueAfter_of_not_bracket fun mem => before (List.mem_append_left _ mem),
        dueAfter_of_not_bracket fun mem => after (List.mem_append_left _ mem)]
  rw [due, List.foldlM_map]
  simp only [step]
  rfl

theorem OneLine.map {s : String} {f : Char → Char} (keeps : KeepsMarks f) (h : OneLine s) : OneLine (s.map f) :=
  mt (keeps.mem_iff (by decide) s).mp h

theorem Clean.map {s : String} {f : Char → Char} (keeps : KeepsMarks f) (h : Clean s) : Clean (s.map f) where
  oneLine := h.oneLine.map keeps
  nested := by
    rw [Nested, String.toList_map, keeps.due_eq]
    exact h.nested
  tidy := by
    have opening := mt (keeps.mem_iff (by decide) s).mp h.tidy.opening
    have closing := mt (keeps.mem_iff (by decide) s).mp h.tidy.closing
    refine ⟨?_, opening, closing⟩
    rw [Paired, keeps.count_eq (by decide), keeps.count_eq (by decide)]
    exact h.tidy.paired

/-- Line breaks apart, no mark is blank. -/
theorem not_mem_marks_of_isBlank {c : Char} (h : isBlank c = true) (hc : c ≠ '\n') : c ∉ marks := by
  have ink : marks.all (fun c => c == '\n' || !isBlank c) = true := by decide
  intro mem
  simpa [h, hc] using List.all_eq_true.mp ink c mem

theorem Clean.of_append_blank {s blanks : String} (h : Clean (s ++ blanks))
    (blank : ∀ c ∈ blanks.toList, isBlank c = true) : Clean s := by
  obtain ⟨oneLine, nested, paired, opening, closing⟩ := h
  have start : s.toList ⊆ (s ++ blanks).toList := by simp
  have one : OneLine blanks := oneLine.of_subset (by simp)
  have plain : Plain blanks := fun c hc => not_mem_marks_of_isBlank (blank c hc) fun hb => one (hb ▸ hc)
  refine ⟨oneLine.of_subset start, ?_, ?_, mt (start ·) opening, mt (start ·) closing⟩
  · unfold Nested at nested
    rw [String.toList_append, due_append] at nested
    obtain ⟨opened, reached, rest⟩ := Option.bind_eq_some_iff.mp nested
    rw [plain.clean.nested.due] at rest
    cases rest
    exact reached
  · have pairs := plain.clean.tidy.paired
    unfold Paired at *
    simp only [String.toList_append, List.count_append] at paired
    omega

/-! ### Structural properties -/

/-- A property of texts that is about their marks: clean texts have it, a text with it keeps it when another one
is put into it, and neither blanks at the end nor the exchange of other characters make a difference. -/
structure Structural (P : String → Prop) : Prop where
  clean : ∀ {s}, Clean s → P s
  insert : ∀ {before s after}, P (before ++ after) → P s → P (before ++ s ++ after)
  trim : ∀ {s blanks : String}, P (s ++ blanks) → (∀ c ∈ blanks.toList, isBlank c = true) → P s
  map : ∀ {s f}, KeepsMarks f → P s → P (s.map f)

theorem structural_oneLine : Structural OneLine where
  clean h := h.oneLine
  insert := OneLine.insert
  trim h _ := h.of_subset (by simp)
  map := OneLine.map

theorem structural_clean : Structural Clean where
  clean h := h
  insert := Clean.insert
  trim := Clean.of_append_blank
  map := Clean.map

namespace Structural
variable {P : String → Prop} (hP : Structural P)
include hP

theorem empty : P "" := hP.clean (by decide)

theorem append {s t : String} (hs : P s) (ht : P t) : P (s ++ t) := by
  have inserted := @hP.insert s t "" (by simpa using hs) ht
  simpa using inserted

/-- A text with the property between two ends that are clean together. -/
theorem between {before s after : String} (ends : Clean (before ++ after)) (h : P s) :
    P (before ++ s ++ after) := hP.insert (hP.clean ends) h

theorem sepBy {sep : String} (hsep : Clean sep) {parts : List String} (h : ∀ s ∈ parts, P s) :
    P (sepBy sep parts) := by
  induction parts with
  | nil => exact hP.empty
  | cons part rest ih =>
    have hp : P part := h part (List.mem_cons_self ..)
    have hr : ∀ s ∈ rest, P s := fun s hs => h s (List.mem_cons_of_mem _ hs)
    cases rest with
    | nil => exact hp
    | cons next rest => exact hP.append (hP.append hp (hP.clean hsep)) (ih hr)

theorem plain {s : String} (h : Plain s) : P s := hP.clean h.clean

theorem padRight {s : String} (h : P s) (width : Nat) : P (padRight width s) := by
  refine hP.append h (hP.plain fun c hc => ?_)
  rw [toList_spaces] at hc
  rw [List.eq_of_mem_replicate hc]
  decide

theorem trimEnd {s : String} (h : P s) : P (String.ofList (trimEnd s.toList)) := by
  obtain ⟨blanks, spelled, blank⟩ := exists_eq_trimEnd_append s.toList
  have whole : P (String.ofList (Text.trimEnd s.toList) ++ String.ofList blanks) := by
    rw [← String.ofList_append, ← spelled, String.ofList_toList]
    exact h
  exact hP.trim whole (by simpa using blank)

/-- Letters and digits. -/
theorem wordlike {s : String} (h : ∀ c ∈ s.toList, wordlike c = true) : P s := by
  have other : marks.all (!Text.wordlike ·) = true := by decide
  refine hP.plain fun c hc mem => ?_
  simpa [h c hc] using List.all_eq_true.mp other c mem

/-- The decimal digits of a number. -/
theorem digits (n : Nat) : P (toString n) := by
  refine hP.wordlike fun c hc => ?_
  rw [Nat.toString_eq_repr, Nat.toList_repr] at hc
  have digit : c.isDigit = true := Nat.isDigit_of_mem_toDigits (by decide) (by decide) hc
  simp [Text.wordlike, Char.isAlphanum, digit]

theorem int (n : Int) : P (toString n) := by
  cases n with
  | ofNat n => exact hP.digits n
  | negSucc n =>
    have minus : Clean "-" := by decide
    exact hP.append (hP.clean minus) (hP.digits (n + 1))

end Structural

end EntityGen.Text
