import EntityGen.Proofs.Render.Go.MemberLines

/-!
A Go struct item by item. What is written for an entity is put together from what is written for each of its
items alone: the same items fail, and the body of the struct is the bodies of the single items one after the
other (`struct_of_items`). -/
namespace EntityGen.Go
open Text

/-! ### The struct -/

/-- The lines of a struct with a body, and of the name of its table. -/
def structLines (className table : String) (body : List String) : List String :=
  ("type " ++ className ++ " struct \x7b") :: body ++
    ["\x7d", "", "func (" ++ className ++ ") TableName() string \x7b", "    return \"" ++ table ++ "\"",
     "\x7d", ""]

/-- The lines of members in the body of a struct. -/
def bodyLines (options : Options) (ms : List Member) : List String :=
  ms.map fun m => "    " ++ m.line options

theorem declaration_eq_unlines (options : Options) (className table : String) (ms : List Member) :
    declaration options className table ms =
      unlines (structLines className table (bodyLines options ms)) := by
  have body : concat (ms.map fun m => "    " ++ m.line options ++ "\n") =
      unlines (bodyLines options ms) := by
    rw [bodyLines, unlines, List.map_map]
    rfl
  show "type " ++ className ++ " struct \x7b\n" ++
      concat (ms.map fun m => "    " ++ m.line options ++ "\n") ++ "\x7d\n\n" ++
      "func (" ++ className ++ ") TableName() string \x7b\n" ++
      "    return \"" ++ table ++ "\"\n" ++ "\x7d\n\n" = _
  rw [body, structLines, List.cons_append, unlines_cons, unlines_append, ← String.toList_inj]
  simp [unlines_cons]

theorem lines_declaration {options : Options} {className table : String} {ms : List Member}
    (hc : OneLine className) (ht : OneLine table) (hm : ∀ m ∈ ms, m.OneLine) :
    lines (declaration options className table ms) =
      structLines className table (bodyLines options ms) := by
  rw [declaration_eq_unlines]
  refine lines_unlines fun l hl => ?_
  simp only [structLines, bodyLines, List.mem_append, List.mem_cons, List.mem_map, List.mem_nil_iff,
    or_false] at hl
  rcases hl with (rfl | ⟨m, hmem, rfl⟩) | rfl | rfl | rfl | rfl | rfl | rfl
  · exact (OneLine.append (by decide) hc).append (by decide)
  · exact OneLine.append (by decide) ((hm m hmem).line options)
  · decide
  · decide
  · exact (OneLine.append (by decide) hc).append (by decide)
  · exact (OneLine.append (by decide) ht).append (by decide)
  · decide
  · decide

/-! ### One item and all items -/

theorem outcome_render (options : Options) (e : Entity) :
    (render options e).outcome =
      (e.items.mapM fun item => (members e.className item).outcome).map fun ms =>
        declaration options e.className e.table ms.flatten := by
  rw [render, Traced.outcome_bind, Traced.outcome_forEach]
  rfl

theorem outcome_render_only (options : Options) (e : Entity) (item : Item) :
    (render options (e.only item)).outcome =
      (members e.className item).outcome.map (declaration options e.className e.table) := by
  rw [outcome_render, Entity.items_only, Entity.className_only, Entity.table_only]
  cases h : (members e.className item).outcome <;> simp [h, Except.map, bind, Except.bind, pure, Except.pure]

/-- A struct that is written has told of the items without members, in order. -/
theorem events_render {options : Options} {e : Entity} {text : String}
    (h : (render options e).outcome = .ok text) :
    (render options e).events = e.items.filterMap (implied? e.className) := by
  rw [outcome_render] at h
  obtain ⟨ms, hms, -⟩ := map_eq_ok_iff.mp h
  rw [← Traced.outcome_forEach] at hms
  rw [render, Traced.bind_of_ok hms, Traced.events_forEach hms, List.filterMap_eq_flatMap_toList]
  simp only [Traced.events_pure, List.append_nil, events_members]

/-- Those are the inverse sides of one-to-one relations and then the one-to-many relations. -/
theorem filterMap_implied_items (e : Entity) :
    e.items.filterMap (implied? e.className) =
      (e.oneToOne.filter (·.isInverse)).map (.impliedOneToOne ·.name) ++
        e.oneToMany.map (.impliedOneToMany e.className ·.name) := by
  have columns : (fun c : Column => implied? e.className (.column c)) = fun _ => none := rfl
  have oneToOne : e.oneToOne.filterMap (fun r => implied? e.className (.oneToOne r)) =
      (e.oneToOne.filter (·.isInverse)).map (.impliedOneToOne ·.name) := by
    rw [← List.filterMap_eq_filter, List.map_filterMap]
    congr 1
    funext r
    obtain ⟨name, model, nullable, inverse, join, action, peer⟩ := r
    cases inverse <;> rfl
  have manyToOne : (fun r : ManyToOne => implied? e.className (.manyToOne r)) = fun _ => none := rfl
  have oneToMany : (fun r : OneToMany => implied? e.className (.oneToMany r)) =
      fun r => some (.impliedOneToMany e.className r.name) := rfl
  have manyToMany : (fun r : ManyToMany => implied? e.className (.manyToMany r)) = fun _ => none := rfl
  simp only [Entity.items, List.filterMap_append, List.filterMap_map, Function.comp_def]
  rw [columns, oneToOne, manyToOne, oneToMany, manyToMany]
  simp only [List.filterMap_none, List.filterMap_eq_map', List.nil_append, List.append_nil]

/-! ### Items -/

/-- What stands in the struct of `e` for one of its items. -/
structure Stands (options : Options) (e : Entity) (item : Item) (body : List String) : Prop where
  /-- The item alone has the same body. -/
  alone : ∃ text, (render options (e.only item)).outcome = .ok text ∧
    lines text = structLines e.className e.table body
  /-- The body is the lines of the members that such an item has. -/
  declared : ∃ ms, Declares item ms ∧ body = bodyLines options ms
  /-- The item alone is told of by the event for it, if there is one. -/
  told : (render options (e.only item)).events = (implied? e.className item).toList
  /-- There is one exactly if nothing is declared. -/
  once : body = [] ↔ (implied? e.className item).isSome = true

theorem stands_of_members {options : Options} {e : Entity} (h : e.OneLine) {item : Item}
    (hi : item ∈ e.items) {ms : List Member} (hm : (members e.className item).outcome = .ok ms) :
    Stands options e item (bodyLines options ms) := by
  have declared := declares_of_members hm
  have written : (render options (e.only item)).outcome =
      .ok (declaration options e.className e.table ms) := by
    rw [outcome_render_only, hm]
    rfl
  have told := events_render written
  rw [Entity.items_only, Entity.className_only] at told
  refine ⟨⟨_, written, ?_⟩, ⟨ms, declared, rfl⟩, ?_, ?_⟩
  · exact lines_declaration h.className h.table (oneLine_members hm (h.item hi))
  · rw [told, List.filterMap_eq_flatMap_toList]
    simp
  · rw [bodyLines, List.map_eq_nil_iff]
    exact declared.eq_nil_iff e.className

/-- **A struct is the structs of its items.** It is written exactly if every item alone is, and otherwise
fails as the first item that fails alone. Its body is the bodies of the items alone, in their order, and
every item either has members there or is told of once. -/
theorem struct_of_items (options : Options) (e : Entity) (h : e.OneLine) :
    ((∃ text, (render options e).outcome = .ok text) ↔
      ∀ item ∈ e.items, ∃ text, (render options (e.only item)).outcome = .ok text) ∧
    (∀ error, (render options e).outcome = .error error ↔
      FailsFirst (fun item => (render options (e.only item)).outcome) e.items error) ∧
    ∀ text, (render options e).outcome = .ok text →
      (∃ bodies, lines text = structLines e.className e.table bodies.flatten ∧
        List.Forall₂ (Stands options e) e.items bodies) ∧
      (render options e).events =
        (e.oneToOne.filter (·.isInverse)).map (.impliedOneToOne ·.name) ++
          e.oneToMany.map (.impliedOneToMany e.className ·.name) := by
  refine ⟨?_, fun error => ?_, fun text written => ⟨?_, ?_⟩⟩
  · simp only [outcome_render_only]
    rw [outcome_render]
    exact exists_run_eq_ok_iff _ _
  · simp only [outcome_render_only]
    rw [outcome_render]
    exact run_eq_error_iff _ _
  · rw [outcome_render] at written
    obtain ⟨ms, hms, rfl⟩ := map_eq_ok_iff.mp written
    have clean : ∀ m ∈ ms.flatten, m.OneLine := by
      intro m hm
      obtain ⟨own, hown, hm⟩ := List.mem_flatten.mp hm
      obtain ⟨item, hi, hmembers⟩ := exists_of_mem_mapM hms hown
      exact oneLine_members hmembers (h.item hi) m hm
    have stand : List.Forall₂ (Stands options e) e.items (ms.map (bodyLines options)) :=
      forall₂_map_of_mapM hms fun item hi own hm => stands_of_members h hi hm
    refine ⟨ms.map (bodyLines options), ?_, stand⟩
    rw [lines_declaration h.className h.table clean, bodyLines, List.map_flatten]
    rfl
  · rw [events_render written, filterMap_implied_items]

theorem struct_of_items_article :
    Entity.article.OneLine ∧ ∃ text, (render {} Entity.article).outcome = .ok text ∧
      (∃ bodies, lines text = structLines "Article" "blog_article" bodies.flatten ∧
        List.Forall₂ (Stands {} Entity.article) Entity.article.items bodies) ∧
      (render {} Entity.article).events =
        [.impliedOneToOne "draft", .impliedOneToMany "Article" "comments"] := by
  have clean : Entity.article.OneLine := by decide
  obtain ⟨-, -, written⟩ := struct_of_items {} Entity.article clean
  exact ⟨clean, _, rfl, written _ rfl⟩

end EntityGen.Go
