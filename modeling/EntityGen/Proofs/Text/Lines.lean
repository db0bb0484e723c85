import EntityGen.Text.Join
import EntityGen.Text.Blank

/-!
The lines of a text. `lines` cuts a text at its line breaks and `unlines` writes lines one under the other;
lines that hold no break themselves come back as they were (`lines_unlines`). `OneLine` says that a text
holds no break, and the lemmas below it follow a break through what texts are put together with. -/
namespace EntityGen.Text

/-- The lines of the rest of a text. `line` is the one under way, last character first; at the end of the
text it counts if it is not empty. -/
def linesFrom (line : List Char) : List Char → List String
  | [] => if line.isEmpty then [] else [String.ofList line.reverse]
  | c :: rest =>
    if c = '\n' then String.ofList line.reverse :: linesFrom [] rest else linesFrom (c :: line) rest

def lines (s : String) : List String := linesFrom [] s.toList

/-- The lines, each with a break at its end. -/
def unlines (ls : List String) : String := concat (ls.map (· ++ "\n"))

@[simp] theorem unlines_nil : unlines [] = "" := rfl

@[simp] theorem unlines_cons (l : String) (ls : List String) :
    unlines (l :: ls) = l ++ "\n" ++ unlines ls := rfl

theorem unlines_append (first second : List String) :
    unlines (first ++ second) = unlines first ++ unlines second := by
  rw [unlines, List.map_append, concat_append]
  rfl

/-- A character of lines that are written is a break or one of a line. -/
theorem mem_unlines {c : Char} {ls : List String} (h : c ∈ (unlines ls).toList) :
    c = '\n' ∨ ∃ l ∈ ls, c ∈ l.toList := by
  induction ls with
  | nil => exact absurd h (List.not_mem_nil)
  | cons l ls ih =>
    rw [unlines_cons, String.toList_append, String.toList_append, List.mem_append, List.mem_append] at h
    rcases h with (h | h) | h
    · exact .inr ⟨l, List.mem_cons_self .., h⟩
    · exact .inl (List.mem_singleton.mp h)
    · rcases ih h with h | ⟨l', hl, h⟩
      · exact .inl h
      · exact .inr ⟨l', List.mem_cons_of_mem _ hl, h⟩

theorem not_mem_unlines {c : Char} {ls : List String} (hc : c ≠ '\n') (h : ∀ l ∈ ls, c ∉ l.toList) :
    c ∉ (unlines ls).toList := by
  intro mem
  rcases mem_unlines mem with eq | ⟨l, hl, mem⟩
  · exact hc eq
  · exact h l hl mem

/-- The text holds no line break. -/
def OneLine (s : String) : Prop := '\n' ∉ s.toList

instance (s : String) : Decidable (OneLine s) := inferInstanceAs (Decidable (_ ∉ _))

/-! ### Cutting and writing -/

theorem linesFrom_append {l : List Char} (h : '\n' ∉ l) (line rest : List Char) :
    linesFrom line (l ++ '\n' :: rest) = String.ofList (line.reverse ++ l) :: linesFrom [] rest := by
  induction l generalizing line with
  | nil => simp [linesFrom]
  | cons c l ih =>
    have hc : c ≠ '\n' := fun hc => h (hc ▸ List.mem_cons_self ..)
    have hl : '\n' ∉ l := fun hl => h (List.mem_cons_of_mem _ hl)
    rw [List.cons_append, linesFrom, if_neg hc, ih hl]
    simp

theorem lines_cons {l : String} (h : OneLine l) (s : String) : lines (l ++ "\n" ++ s) = l :: lines s := by
  have cut := linesFrom_append h [] s.toList
  simpa [lines] using cut

/-- Lines without breaks are the lines of what is written. -/
theorem lines_unlines {ls : List String} (h : ∀ l ∈ ls, OneLine l) : lines (unlines ls) = ls := by
  induction ls with
  | nil => rfl
  | cons l ls ih =>
    rw [unlines_cons, lines_cons (h l (List.mem_cons_self ..)),
      ih fun l' hl => h l' (List.mem_cons_of_mem _ hl)]

/-! ### Texts without breaks -/

theorem oneLine_empty : OneLine "" := by decide

theorem OneLine.append {s t : String} (hs : OneLine s) (ht : OneLine t) : OneLine (s ++ t) := by
  unfold OneLine at *
  rw [String.toList_append, List.mem_append]
  exact not_or.mpr ⟨hs, ht⟩

theorem OneLine.insert {before s after : String} (around : OneLine (before ++ after)) (inner : OneLine s) :
    OneLine (before ++ s ++ after) := by
  unfold OneLine at *
  simp only [String.toList_append, List.mem_append, not_or] at *
  exact ⟨⟨around.1, inner⟩, around.2⟩

theorem OneLine.of_subset {s t : String} (h : OneLine s) (sub : t.toList ⊆ s.toList) : OneLine t :=
  fun hb => h (sub hb)

/-! ### Blanks at the end -/

/-- Taking blanks off the end adds nothing. -/
theorem trimEnd_subset (s : List Char) : trimEnd s ⊆ s := by
  intro c hc
  rw [trimEnd, List.mem_reverse] at hc
  exact List.mem_reverse.mp ((List.dropWhile_sublist _).subset hc)

/-- What is taken off the end is blank. -/
theorem exists_eq_trimEnd_append (s : List Char) :
    ∃ blanks, s = trimEnd s ++ blanks ∧ ∀ c ∈ blanks, isBlank c = true := by
  refine ⟨(s.reverse.takeWhile isBlank).reverse, ?_, fun c hc => ?_⟩
  · rw [trimEnd, ← List.reverse_append, List.takeWhile_append_dropWhile, List.reverse_reverse]
  · exact List.all_eq_true.mp List.all_takeWhile c (List.mem_reverse.mp hc)

/-- Nothing is taken off before a character that is not blank. -/
theorem trimEnd_append {s : List Char} {c : Char} (ink : isBlank c = false) (t : List Char) :
    trimEnd (s ++ c :: t) = s ++ c :: trimEnd t := by
  have keep : (s ++ c :: t).reverse = t.reverse ++ (c :: s.reverse) := by simp
  rw [trimEnd, keep, List.dropWhile_append]
  split
  · next none_left =>
    rw [List.isEmpty_iff] at none_left
    rw [List.dropWhile_cons_of_neg (by simp [ink]), trimEnd, none_left]
    simp
  · rw [trimEnd]
    simp

end EntityGen.Text
