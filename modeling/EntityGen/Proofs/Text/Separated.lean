import EntityGen.Text.Join

/-!
Texts cut at a separator. `cutAt` is the way back from `sepBy`: what is cut out of parts that were written with a
separator between them is what is cut out of each part (`cutAt_sepBy`), so that parts without the separator come
back as they were. A text is told by its pieces (`cutAt_injective`). A single mark cuts a text where it first stands. -/
namespace EntityGen.Text

/-- The pieces of a text between separators. -/
def cutAt (sep : Char) (s : String) : List String := (s.toList.splitOn sep).map String.ofList

theorem cutAt_ne_nil (sep : Char) (s : String) : cutAt sep s ≠ [] := by
  simp [cutAt, List.splitOn_ne_nil]

theorem cutAt_of_not_mem {sep : Char} {s : String} (h : sep ∉ s.toList) : cutAt sep s = [s] := by
  simp [cutAt, List.splitOn_eq_singleton h]

theorem cutAt_append (sep : Char) (s t : String) :
    cutAt sep (s ++ String.singleton sep ++ t) = cutAt sep s ++ cutAt sep t := by
  simp [cutAt, List.splitOn_append_cons_self]

/-- The separators between the pieces are all that is lost. -/
theorem cutAt_injective {sep : Char} {s t : String} (h : cutAt sep s = cutAt sep t) : s = t := by
  have pieces := congrArg (List.map String.toList) h
  simp only [cutAt, List.map_map, Function.comp_def, String.toList_ofList, List.map_id'] at pieces
  rw [← String.toList_inj, ← @List.intercalate_splitOn _ s.toList _ _ sep, pieces, List.intercalate_splitOn]

/-! ### Up to a mark -/

theorem dropWhile_of_not_mem {mark : Char} {front : List Char} (h : mark ∉ front) (rest : List Char) :
    (front ++ rest).dropWhile (· != mark) = rest.dropWhile (· != mark) :=
  List.dropWhile_append_of_pos fun _ hc => bne_iff_ne.mpr fun same => h (same ▸ hc)

theorem takeWhile_of_not_mem {mark : Char} {text : List Char} (h : mark ∉ text) (rest : List Char) :
    (text ++ mark :: rest).takeWhile (· != mark) = text := by
  have inside : ∀ c ∈ text, (c != mark) = true := fun _ hc => bne_iff_ne.mpr fun same => h (same ▸ hc)
  rw [List.takeWhile_append_of_pos inside]
  simp

/-- The first mark tells what stands before it from what stands behind it. -/
theorem eq_of_append_mark {mark : Char} {front other rest more : List Char} (hf : mark ∉ front) (ho : mark ∉ other)
    (same : front ++ mark :: rest = other ++ mark :: more) : front = other ∧ rest = more := by
  have fronts := congrArg (List.takeWhile (· != mark)) same
  rw [takeWhile_of_not_mem hf, takeWhile_of_not_mem ho] at fronts
  subst fronts
  exact ⟨rfl, (List.cons.inj (List.append_cancel_left same)).2⟩

/-! ### Parts with a separator -/

theorem not_mem_sepBy {c : Char} {sep : String} (hs : c ∉ sep.toList) {parts : List String}
    (h : ∀ part ∈ parts, c ∉ part.toList) : c ∉ (sepBy sep parts).toList := by
  induction parts with
  | nil => exact List.not_mem_nil
  | cons part rest ih =>
    obtain ⟨hp, hr⟩ := List.forall_mem_cons.mp h
    cases rest with
    | nil => exact hp
    | cons next rest =>
      simp only [sepBy_cons_cons, String.toList_append, List.mem_append, not_or]
      exact ⟨⟨hp, hs⟩, ih hr⟩

theorem sepBy_append (sep : String) {first second : List String} (hf : first ≠ []) (hs : second ≠ []) :
    sepBy sep (first ++ second) = sepBy sep first ++ sep ++ sepBy sep second := by
  induction first with
  | nil => exact absurd rfl hf
  | cons part rest ih =>
    cases rest with
    | nil =>
      obtain ⟨next, more, rfl⟩ := List.exists_cons_of_ne_nil hs
      rfl
    | cons next rest =>
      rw [List.cons_append, List.cons_append, sepBy_cons_cons, ← List.cons_append, ih (List.cons_ne_nil _ _),
        sepBy_cons_cons]
      simp only [String.append_assoc]

/-- One part changes nothing but its own place. -/
theorem exists_sepBy_around (sep : String) (first last : List String) :
    ∃ before after, ∀ part, sepBy sep (first ++ part :: last) = before ++ part ++ after := by
  have behind : ∃ after, ∀ part, sepBy sep (part :: last) = part ++ after := by
    cases last with
    | nil => exact ⟨"", fun part => by simp⟩
    | cons next last => exact ⟨sep ++ sepBy sep (next :: last), fun part => String.append_assoc⟩
  obtain ⟨after, behind⟩ := behind
  cases first with
  | nil => exact ⟨"", after, fun part => by simp [behind]⟩
  | cons head first =>
    refine ⟨sepBy sep (head :: first) ++ sep, after, fun part => ?_⟩
    rw [sepBy_append sep (List.cons_ne_nil _ _) (List.cons_ne_nil _ _), behind]
    simp only [String.append_assoc]

theorem cutAt_sepBy {sep : Char} {parts : List String} (h : parts ≠ []) :
    cutAt sep (sepBy (String.singleton sep) parts) = parts.flatMap (cutAt sep) := by
  induction parts with
  | nil => exact absurd rfl h
  | cons part rest ih =>
    cases rest with
    | nil => simp
    | cons next rest => rw [sepBy_cons_cons, cutAt_append, ih (List.cons_ne_nil _ _), ← List.flatMap_cons]

/-- Parts with a separator are told by the pieces of all of them. -/
theorem sepBy_eq_iff {sep : Char} {first second : List String} (hf : first ≠ []) (hs : second ≠ []) :
    sepBy (String.singleton sep) first = sepBy (String.singleton sep) second ↔
      first.flatMap (cutAt sep) = second.flatMap (cutAt sep) := by
  rw [← cutAt_sepBy hf, ← cutAt_sepBy hs]
  exact ⟨congrArg _, cutAt_injective⟩

/-- Parts without the separator. -/
theorem flatMap_cutAt_of_not_mem {sep : Char} {parts : List String} (h : ∀ part ∈ parts, sep ∉ part.toList) :
    parts.flatMap (cutAt sep) = parts := by
  induction parts with
  | nil => rfl
  | cons part rest ih =>
    rw [List.flatMap_cons, cutAt_of_not_mem (h part (List.mem_cons_self ..)),
      ih fun other ho => h other (List.mem_cons_of_mem _ ho)]
    rfl

end EntityGen.Text
