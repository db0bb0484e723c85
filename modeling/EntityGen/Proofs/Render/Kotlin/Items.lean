import EntityGen.Proofs.Render.Kotlin.BlockLines
import EntityGen.Proofs.Sequence

/-!
A Kotlin class item by item. What is written for an entity is put together from what is written for each of
its items alone: the same items fail, and the class is the blocks of the single items one after the other,
each with one property at its end (`class_of_items`). -/
namespace EntityGen.Kotlin
open Text

/-! ### The class -/

/-- The lines of a class with a body. -/
def classLines (className table : String) (body : List String) : List String :=
  ["@Entity", "@Table(name = \"" ++ table ++ "\")", "class " ++ className ++ " ("] ++ body ++ [")", ""]

/-- The lines of a block in the body of a class. -/
def blockLines (ls : List String) : List String := "" :: ls.map ("    " ++ ·)

theorem layout_eq_unlines (ls : List String) : layout ls = unlines (blockLines ls) := by
  have marks : concat (ls.map fun line => "    " ++ line ++ "\n") = unlines (ls.map ("    " ++ ·)) := by
    rw [unlines, List.map_map]
    rfl
  rw [layout, marks, blockLines, unlines_cons, String.empty_append]

theorem concat_layout (blocks : List (List String)) :
    concat (blocks.map layout) = unlines (blocks.map blockLines).flatten := by
  induction blocks with
  | nil => rfl
  | cons ls blocks ih =>
    rw [List.map_cons, concat_cons, ih, layout_eq_unlines, List.map_cons, List.flatten_cons, unlines_append]

theorem declaration_eq_unlines (className table : String) (blocks : List (List String)) :
    declaration className table blocks =
      unlines (classLines className table (blocks.map blockLines).flatten) := by
  show "@Entity\n@Table(name = \"" ++ table ++ "\")\nclass " ++ className ++ " (\n" ++
    concat (blocks.map layout) ++ ")\n\n" = _
  rw [concat_layout, classLines, unlines_append, unlines_append, ← String.toList_inj]
  simp [unlines_cons]

theorem lines_declaration {className table : String} {blocks : List (List String)}
    (hc : OneLine className) (ht : OneLine table) (hb : ∀ ls ∈ blocks, ∀ s ∈ ls, OneLine s) :
    lines (declaration className table blocks) =
      classLines className table (blocks.map blockLines).flatten := by
  rw [declaration_eq_unlines]
  have indent : OneLine "    " := by decide
  have body : ∀ s ∈ (blocks.map blockLines).flatten, OneLine s := by
    intro s hs
    obtain ⟨_, hblock, hs⟩ := List.mem_flatten.mp hs
    obtain ⟨ls, hls, rfl⟩ := List.mem_map.mp hblock
    rcases List.mem_cons.mp hs with rfl | hs
    · exact oneLine_empty
    · obtain ⟨line, hline, rfl⟩ := List.mem_map.mp hs
      exact indent.append (hb ls hls line hline)
  have head : ∀ s ∈ ["@Entity", "@Table(name = \"" ++ table ++ "\")", "class " ++ className ++ " ("],
      OneLine s := by
    intro s hs
    simp only [List.mem_cons, List.mem_nil_iff, or_false] at hs
    rcases hs with rfl | rfl | rfl
    · decide
    · exact (OneLine.append (by decide) ht).append (by decide)
    · exact (OneLine.append (by decide) hc).append (by decide)
  have foot : ∀ s ∈ [")", ""], OneLine s := by decide
  exact lines_unlines (List.forall_mem_append.mpr ⟨List.forall_mem_append.mpr ⟨head, body⟩, foot⟩)

/-! ### One item and all items -/

theorem render_eq (e : Entity) :
    render e = (e.items.mapM block).map (declaration e.className e.table) := rfl

theorem render_only (e : Entity) (item : Item) :
    render (e.only item) = (block item).map fun ls => declaration e.className e.table [ls] := by
  rw [render_eq, Entity.items_only, Entity.className_only, Entity.table_only, mapM_cons_eq, List.mapM_nil]
  cases block item <;> rfl

/-! ### Items -/

/-- What stands in the class of `e` for one of its items. -/
structure Stands (e : Entity) (item : Item) (ls : List String) : Prop where
  /-- The item alone has the same block. -/
  alone : ∃ text, render (e.only item) = .ok text ∧ lines text = classLines e.className e.table ls
  /-- The block is an empty line, annotations, and the property. -/
  declared : ∃ marks type, Declares item marks type ∧
    ls = "" :: marks.map ("    " ++ ·) ++
      ["    var " ++ Identifier.kotlin item.name ++ ": " ++ type ++ (if item.nullable then "?" else "") ++
        ","]
  /-- No other line looks like a property. -/
  once : ls.countP isProperty = 1

theorem oneLine_block {item : Item} (h : item.OneLine) {ls : List String} (hb : block item = .ok ls) :
    ∀ s ∈ ls, OneLine s := by
  obtain ⟨marks, type, declares, rfl⟩ := block_eq_ok_iff.mp hb
  obtain ⟨hmarks, htype⟩ := declares.isMark h
  exact List.forall_mem_append.mpr
    ⟨fun s hs => (hmarks s hs).1, List.forall_mem_singleton.mpr (held_property structural_oneLine htype)⟩

theorem stands_of_block {e : Entity} (h : e.OneLine) {item : Item} (hi : item ∈ e.items) {ls : List String}
    (hb : block item = .ok ls) : Stands e item (blockLines ls) := by
  have written : render (e.only item) = .ok (declaration e.className e.table [ls]) := by
    rw [render_only, hb]
    rfl
  have clean : ∀ own ∈ [ls], ∀ s ∈ own, OneLine s :=
    List.forall_mem_singleton.mpr (oneLine_block (h.item hi) hb)
  have cut := lines_declaration h.className h.table clean
  rw [List.map_singleton, List.flatten_singleton] at cut
  obtain ⟨marks, type, declares, rfl⟩ := block_eq_ok_iff.mp hb
  have notProperty : ∀ s ∈ marks, isProperty ("    " ++ s) = false :=
    fun s hs => ((declares.isMark (h.item hi)).1 s hs).not_isProperty
  refine ⟨⟨_, written, cut⟩, ⟨marks, type, declares, ?_⟩, ?_⟩
  · have line : "    " ++ property item.name type item.nullable =
        "    var " ++ Identifier.kotlin item.name ++ ": " ++ type ++ (if item.nullable then "?" else "") ++
          "," := by
      rw [← String.toList_inj]
      simp [property]
    rw [blockLines, List.map_append, List.map_singleton, line]
    rfl
  · have empty : isProperty "" = false := by decide
    have none : marks.countP (isProperty ∘ ("    " ++ ·)) = 0 :=
      List.countP_eq_zero.mpr fun s hs => by simp [notProperty s hs]
    rw [blockLines, List.countP_cons_of_neg (by simp [empty]), List.countP_map, List.countP_append, none,
      Nat.zero_add]
    simp [isProperty_property]

/-- A block for every item is a property for every item. -/
theorem countP_of_stands {e : Entity} {items : List Item} {blocks : List (List String)}
    (h : List.Forall₂ (Stands e) items blocks) : blocks.flatten.countP isProperty = items.length := by
  induction h with
  | nil => rfl
  | cons stands _ ih =>
    rw [List.flatten_cons, List.countP_append, stands.once, ih, List.length_cons, Nat.add_comm]

theorem countP_classLines (className table : String) (body : List String) :
    (classLines className table body).countP isProperty = body.countP isProperty := by
  simp [classLines, isProperty, List.isPrefixOf]

/-- **A class is the classes of its items.** It is written exactly if every item alone is, and otherwise
fails as the first item that fails alone. Its blocks are the blocks of the items alone, in their order, and
every item has one property there. -/
theorem class_of_items (e : Entity) (h : e.OneLine) :
    ((∃ text, render e = .ok text) ↔ ∀ item ∈ e.items, ∃ text, render (e.only item) = .ok text) ∧
    (∀ error, render e = .error error ↔ FailsFirst (fun item => render (e.only item)) e.items error) ∧
    ∀ text, render e = .ok text →
      (∃ blocks, lines text = classLines e.className e.table blocks.flatten ∧
        List.Forall₂ (Stands e) e.items blocks) ∧
      (lines text).countP isProperty = e.columns.length + e.relationCount := by
  refine ⟨?_, fun error => ?_, fun text written => ?_⟩
  · simp only [render_only]
    rw [render_eq]
    exact exists_run_eq_ok_iff _ _
  · simp only [render_only]
    rw [render_eq]
    exact run_eq_error_iff _ _
  · rw [render_eq] at written
    obtain ⟨blocks, hblocks, rfl⟩ := map_eq_ok_iff.mp written
    have clean : ∀ ls ∈ blocks, ∀ s ∈ ls, OneLine s := by
      intro ls hls
      obtain ⟨item, hi, hb⟩ := exists_of_mem_mapM hblocks hls
      exact oneLine_block (h.item hi) hb
    have stand : List.Forall₂ (Stands e) e.items (blocks.map blockLines) :=
      forall₂_map_of_mapM hblocks fun item hi ls hb => stands_of_block h hi hb
    have cut := lines_declaration h.className h.table clean
    refine ⟨⟨blocks.map blockLines, cut, stand⟩, ?_⟩
    rw [cut, countP_classLines, countP_of_stands stand, Entity.length_items]

theorem class_of_items_article :
    Entity.article.OneLine ∧ ∃ text, render Entity.article = .ok text ∧
      (∃ blocks, lines text = classLines "Article" "blog_article" blocks.flatten ∧
        List.Forall₂ (Stands Entity.article) Entity.article.items blocks) ∧
      (lines text).countP isProperty = 7 := by
  have clean : Entity.article.OneLine := by decide
  obtain ⟨-, -, written⟩ := class_of_items Entity.article clean
  exact ⟨clean, _, rfl, written _ rfl⟩

end EntityGen.Kotlin
