import EntityGen.Proofs.Render.Go.Items
import EntityGen.Proofs.Render.Kotlin.Items

/-!
Brackets and quotation marks of declarations. If no text of an entity has a mark, every line of a member and of
a block is clean, except for the lines of a table that joins two entities, which are nested together. What
stands around them closes its own brackets. So a declaration is nested, its lines have their quotation marks in
pairs, and its braces are those of the struct and of the function: no slot of a template is left
(`nested_of_plain`). -/
namespace EntityGen
open Text

/-- No text of the entity has brackets, quotation marks or line breaks. -/
def Entity.Plain (e : Entity) : Prop := ∀ s ∈ e.texts, Text.Plain s

instance (e : Entity) : Decidable e.Plain := inferInstanceAs (Decidable (∀ s ∈ e.texts, _))

theorem Entity.Plain.clean {e : Entity} (h : e.Plain) :
    Clean e.className ∧ Clean e.table ∧ ∀ item ∈ e.items, ∀ s ∈ item.texts, Clean s :=
  forall_mem_texts.mp fun s hs => (h s hs).clean

/-- A line of a body, behind its indentation. -/
theorem clean_indented {l : String} (h : Clean l) : Clean ("    " ++ l) := structural_clean.append (by decide) h

/-- Tidy lines bring no braces. -/
theorem unbraced_unlines {ls : List String} (h : ∀ l ∈ ls, Tidy l) :
    '\x7b' ∉ (unlines ls).toList ∧ '\x7d' ∉ (unlines ls).toList :=
  ⟨not_mem_unlines (by decide) fun l hl => (h l hl).opening,
    not_mem_unlines (by decide) fun l hl => (h l hl).closing⟩

/-! ### Go -/

namespace Go

theorem unlines_structLines (className table : String) (body : List String) :
    unlines (structLines className table body) =
      "type " ++ className ++ " struct \x7b\n" ++ unlines body ++
        ("\x7d\n\nfunc (" ++ className ++ ") TableName() string \x7b\n    return \"" ++ table ++
          "\"\n\x7d\n\n") := by
  rw [structLines, List.cons_append, unlines_cons, unlines_append, ← String.toList_inj]
  simp [unlines_cons]

section Struct
variable {className table : String} {body : List String} (hc : Clean className) (ht : Clean table)
  (hb : ∀ l ∈ body, Clean l)
include hc ht hb

theorem nested_struct : Nested (unlines (structLines className table body)) := by
  have inside : Nested (unlines body) := nested_unlines fun l hl => (hb l hl).nested
  rw [unlines_structLines, Nested]
  simp only [String.toList_append, due_append, hc.nested.due, ht.nested.due, inside.due]
  rfl

theorem paired_struct : ∀ l ∈ structLines className table body, Paired l := by
  intro l hl
  simp only [structLines, List.mem_append, List.mem_cons, List.mem_nil_iff, or_false] at hl
  rcases hl with (rfl | hl) | rfl | rfl | rfl | rfl | rfl | rfl
  · exact Paired.insert (by decide) hc.tidy.paired
  · exact (hb l hl).tidy.paired
  · decide
  · decide
  · exact Paired.insert (by decide) hc.tidy.paired
  · exact Paired.insert (by decide) ht.tidy.paired
  · decide
  · decide

theorem count_struct : (unlines (structLines className table body)).toList.count '\x7b' = 2 ∧
    (unlines (structLines className table body)).toList.count '\x7d' = 2 := by
  obtain ⟨opening, closing⟩ := unbraced_unlines fun l hl => (hb l hl).tidy
  rw [unlines_structLines]
  simp only [String.toList_append, List.count_append, List.count_eq_zero.mpr opening,
    List.count_eq_zero.mpr closing, List.count_eq_zero.mpr hc.tidy.opening,
    List.count_eq_zero.mpr hc.tidy.closing, List.count_eq_zero.mpr ht.tidy.opening,
    List.count_eq_zero.mpr ht.tidy.closing]
  decide

end Struct

theorem clean_members {e : Entity} (clean : ∀ item ∈ e.items, ∀ s ∈ item.texts, Clean s)
    {own : List (List Member)} (run : (e.items.mapM fun item => (members e.className item).outcome) = .ok own) :
    ∀ m ∈ own.flatten, ∀ s ∈ m.texts, Clean s := by
  intro m hm
  obtain ⟨ms, hms, hm⟩ := List.mem_flatten.mp hm
  obtain ⟨item, hi, written⟩ := exists_of_mem_mapM run hms
  exact held_members structural_clean written (clean item hi) m hm

theorem clean_bodyLines {ms : List Member} (h : ∀ m ∈ ms, ∀ s ∈ m.texts, Clean s) (options : Options) :
    ∀ l ∈ bodyLines options ms, Clean l :=
  List.forall_mem_map.mpr fun m hm => clean_indented (held_line structural_clean (h m hm) options)

end Go

/-! ### Kotlin -/

namespace Kotlin

/-- A block is nested as a whole, and its lines are tidy. -/
structure WellFormed (ls : List String) : Prop where
  nested : Nested (unlines ls)
  tidy : ∀ l ∈ ls, Tidy l

theorem wellFormed_of_clean {ls : List String} (h : ∀ l ∈ ls, Clean l) : WellFormed (blockLines ls) := by
  have lines : ∀ l ∈ blockLines ls, Clean l := by
    refine List.forall_mem_cons.mpr ⟨by decide, List.forall_mem_map.mpr fun l hl => ?_⟩
    exact clean_indented (h l hl)
  exact ⟨nested_unlines fun l hl => (lines l hl).nested, fun l hl => (lines l hl).tidy⟩

/-- The lines for a table that joins two entities close their brackets together. -/
theorem wellFormed_joinTable {table join peerJoin line : String} (ht : Clean table) (hj : Clean join)
    (hp : Clean peerJoin) (hl : Clean line) :
    WellFormed (blockLines (joinTableMarks table join peerJoin ++ [line])) := by
  constructor
  · simp only [Nested, blockLines, joinTableMarks, List.map_cons, List.map_nil, List.cons_append, List.nil_append,
      unlines_cons, unlines_nil, String.toList_append, due_append, ht.nested.due, hj.nested.due, hp.nested.due,
      hl.nested.due]
    rfl
  · intro l mem
    simp only [blockLines, joinTableMarks, List.map_cons, List.map_nil, List.cons_append, List.nil_append,
      List.mem_cons, List.mem_nil_iff, or_false, ← String.append_assoc] at mem
    rcases mem with rfl | rfl | rfl | rfl | rfl | rfl | rfl | rfl
    · decide
    · decide
    · decide
    · exact Tidy.insert (by decide) ht.tidy
    · exact Tidy.insert (by decide) hj.tidy
    · exact Tidy.insert (by decide) hp.tidy
    · decide
    · exact (clean_indented hl).tidy

theorem wellFormed_block {item : Item} (h : ∀ s ∈ item.texts, Clean s) {ls : List String}
    (written : block item = .ok ls) : WellFormed (blockLines ls) := by
  obtain ⟨marks, type, declares, rfl⟩ := block_eq_ok_iff.mp written
  obtain ⟨lines, htype⟩ := declares.held structural_clean h
  have last := @held_property _ structural_clean item.name type item.nullable htype
  rcases lines with lines | ⟨table, join, peerJoin, rfl, ht, hj, hp⟩
  · refine wellFormed_of_clean (List.forall_mem_append.mpr ⟨fun s hs => (lines s hs).1, ?_⟩)
    exact List.forall_mem_singleton.mpr last
  · exact wellFormed_joinTable ht hj hp last

theorem unlines_classLines (className table : String) (body : List String) :
    unlines (classLines className table body) =
      "@Entity\n@Table(name = \"" ++ table ++ "\")\nclass " ++ className ++ " (\n" ++ unlines body ++ ")\n\n" := by
  rw [classLines, unlines_append, unlines_append, ← String.toList_inj]
  simp [unlines_cons]

theorem wellFormed_class {className table : String} {body : List String} (hc : Clean className)
    (ht : Clean table) (hb : WellFormed body) : WellFormed (classLines className table body) := by
  constructor
  · rw [unlines_classLines, Nested]
    simp only [String.toList_append, due_append, hc.nested.due, ht.nested.due, hb.nested.due]
    rfl
  · intro l hl
    simp only [classLines, List.mem_append, List.mem_cons, List.mem_nil_iff, or_false] at hl
    rcases hl with ((rfl | rfl | rfl) | hl) | rfl | rfl
    · decide
    · exact Tidy.insert (by decide) ht.tidy
    · exact Tidy.insert (by decide) hc.tidy
    · exact hb.tidy l hl
    · decide
    · decide

/-- Blocks under each other. -/
theorem wellFormed_flatten {blocks : List (List String)} (h : ∀ ls ∈ blocks, WellFormed ls) :
    WellFormed blocks.flatten := by
  constructor
  · induction blocks with
    | nil => decide
    | cons ls blocks ih =>
      rw [List.flatten_cons, unlines_append]
      have rest := ih fun own hown => h own (List.mem_cons_of_mem _ hown)
      exact (h ls (List.mem_cons_self ..)).nested.append rest
  · intro l hl
    obtain ⟨ls, hls, hl⟩ := List.mem_flatten.mp hl
    exact (h ls hls).tidy l hl

end Kotlin

/-! ### Declarations -/

/-- **Declarations are well nested.** If no text of an entity has brackets, quotation marks or line breaks, then
whatever is written for it is nested, and in each of its lines double quotes and backticks come in pairs. A
struct has two opening and two closing braces, around its members and around the body of its function, whatever
the options; a class has none. So no slot of a template is left in either. -/
theorem nested_of_plain {e : Entity} (plain : e.Plain) :
    (∀ options text, (Go.render options e).outcome = .ok text →
      Nested text ∧ (∀ l ∈ lines text, Paired l) ∧ text.toList.count '\x7b' = 2 ∧
        text.toList.count '\x7d' = 2) ∧
    ∀ text, Kotlin.render e = .ok text →
      Nested text ∧ (∀ l ∈ lines text, Paired l) ∧ '\x7b' ∉ text.toList ∧ '\x7d' ∉ text.toList := by
  obtain ⟨hc, ht, clean⟩ := plain.clean
  constructor
  · intro options text written
    rw [Go.outcome_render] at written
    obtain ⟨own, run, rfl⟩ := map_eq_ok_iff.mp written
    have members := Go.clean_members clean run
    have body := Go.clean_bodyLines members options
    have oneLine : ∀ m ∈ own.flatten, m.OneLine := fun m hm s hs => (members m hm s hs).oneLine
    have cut := @Go.lines_declaration options _ _ _ hc.oneLine ht.oneLine oneLine
    refine ⟨?_, ?_, ?_⟩
    · rw [Go.declaration_eq_unlines]
      exact Go.nested_struct hc ht body
    · rw [cut]
      exact Go.paired_struct hc ht body
    · rw [Go.declaration_eq_unlines]
      exact Go.count_struct hc ht body
  · intro text written
    rw [Kotlin.render_eq] at written
    obtain ⟨blocks, run, rfl⟩ := map_eq_ok_iff.mp written
    have wellFormed : ∀ ls ∈ blocks.map Kotlin.blockLines, Kotlin.WellFormed ls := by
      refine List.forall_mem_map.mpr fun ls hls => ?_
      obtain ⟨item, hi, hb⟩ := exists_of_mem_mapM run hls
      exact Kotlin.wellFormed_block (clean item hi) hb
    have oneLine : ∀ ls ∈ blocks, ∀ s ∈ ls, OneLine s := by
      intro ls hls
      obtain ⟨item, hi, hb⟩ := exists_of_mem_mapM run hls
      exact Kotlin.oneLine_block (fun s hs => (clean item hi s hs).oneLine) hb
    have whole := Kotlin.wellFormed_class hc ht (Kotlin.wellFormed_flatten wellFormed)
    refine ⟨?_, ?_, ?_⟩
    · rw [Kotlin.declaration_eq_unlines]
      exact whole.nested
    · rw [Kotlin.lines_declaration hc.oneLine ht.oneLine oneLine]
      exact fun l hl => (whole.tidy l hl).paired
    · rw [Kotlin.declaration_eq_unlines]
      exact unbraced_unlines whole.tidy

theorem nested_of_plain_article :
    Entity.article.Plain ∧
      (∃ text, (Go.render {} Entity.article).outcome = .ok text ∧ Nested text ∧ text.toList.count '\x7b' = 2) ∧
      ∃ text, Kotlin.render Entity.article = .ok text ∧ Nested text ∧ '\x7b' ∉ text.toList := by
  have plain : Entity.article.Plain := by decide
  have struct : ∃ text, (Go.render {} Entity.article).outcome = .ok text := ⟨_, rfl⟩
  have whole : ∃ text, Kotlin.render Entity.article = .ok text := ⟨_, rfl⟩
  obtain ⟨toGo, toKotlin⟩ := nested_of_plain plain
  obtain ⟨goText, written⟩ := struct
  obtain ⟨kotlinText, kotlinWritten⟩ := whole
  obtain ⟨nestedStruct, -, braces, -⟩ := toGo {} goText written
  obtain ⟨nestedClass, -, unbraced, -⟩ := toKotlin kotlinText kotlinWritten
  exact ⟨plain, ⟨goText, written, nestedStruct, braces⟩, kotlinText, kotlinWritten, nestedClass, unbraced⟩

end EntityGen
