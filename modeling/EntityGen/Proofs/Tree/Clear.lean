import EntityGen.Proofs.Tree.ReadBack

/-!
Trees that differ below one directory. A path that does not name the directory does not lead there, wherever it
turns, so it leads to the same place in both trees and finds the same there (`read_of_unnamed`,
`target_of_unnamed`). -/
namespace EntityGen.Tree
variable {tree after : Tree} {here place : Place} {path name : String}

/-- The place is the directory of that name, or below it. -/
def Below (here : Place) (name : String) (place : Place) : Prop := here ++ [name] <+: place

/-- The trees are the same but below the directory of that name. -/
structure DiffersBelow (tree after : Tree) (here : Place) (name : String) : Prop where
  directories : ∀ p, ¬ Below here name p → after.isDirectory p = tree.isDirectory p
  files : ∀ p, ¬ Below here name p → after.file? p = tree.file? p

/-- Only a step by the name leads below. -/
theorem not_below_of_step {next : Place} {other : String} (outside : ¬ Below here name place) (unnamed : other ≠ name)
    (step : tree.step place other = .ok next) : ¬ Below here name next := by
  obtain ⟨-, rfl⟩ := step_eq_ok_iff.mp step
  intro below
  split at below
  · exact outside below
  · split at below
    · exact outside (below.trans (List.dropLast_prefix place))
    · rcases List.prefix_concat_iff.mp below with same | within
      · exact unnamed (List.append_inj' same rfl |>.2 |> List.singleton_inj.mp).symm
      · exact outside within

namespace DiffersBelow
variable (differs : DiffersBelow tree after here name)
include differs

theorem step_eq (outside : ¬ Below here name place) (other : String) :
    after.step place other = tree.step place other := by
  unfold step
  rw [differs.directories place outside, differs.files place outside]

/-- A way without the name is the same in both trees, and does not lead below. -/
theorem walk_eq {names : List String} (unnamed : name ∉ names) (outside : ¬ Below here name place) :
    after.walk place names = tree.walk place names ∧
      ∀ last, tree.walk place names = .ok last → ¬ Below here name last := by
  induction names generalizing place with
  | nil => exact ⟨rfl, fun last same => Except.ok.inj same ▸ outside⟩
  | cons other names ih =>
    obtain ⟨first, rest⟩ := not_or.mp (mt List.mem_cons.mpr unnamed)
    rw [walk_cons, walk_cons, differs.step_eq outside]
    cases step : tree.step place other with
    | error fault => exact ⟨rfl, nofun⟩
    | ok next => exact ih rest (not_below_of_step outside (Ne.symm first) step)

omit differs in
theorem not_below_origin (path : String) : ¬ Below here name (origin here path) := by
  intro below
  have longer := below.length_le
  rw [List.length_append, List.length_singleton] at longer
  unfold origin at longer
  split at longer
  · exact absurd longer (by simp)
  · omega

theorem place_eq (unnamed : name ∉ names path) :
    after.place here path = tree.place here path ∧
      ∀ place, tree.place here path = .ok place → ¬ Below here name place := by
  unfold Tree.place
  split
  · exact ⟨rfl, nofun⟩
  · exact differs.walk_eq unnamed (not_below_origin path)

theorem read_of_unnamed (unnamed : name ∉ names path) : after.read here path = tree.read here path := by
  obtain ⟨same, outside⟩ := differs.place_eq unnamed
  unfold read bytes
  rw [same]
  cases there : tree.place here path with
  | error fault => rfl
  | ok place =>
    have clear := outside place there
    simp only [bind, Except.bind, differs.directories place clear, differs.files place clear]

/-- What is written to a path without the name goes to the same place in both trees. -/
theorem target_of_unnamed (dotted : name ≠ ".") (unnamed : name ∉ names path) :
    after.target here path = tree.target here path := by
  have same (before : List String) (part : before ⊆ names path) :
      after.walk (origin here path) (before ++ ["."]) = tree.walk (origin here path) (before ++ ["."]) := by
    refine (differs.walk_eq ?_ (not_below_origin path)).1
    intro named
    rcases List.mem_append.mp named with named | dot
    · exact unnamed (part named)
    · exact dotted (List.mem_singleton.mp dot)
  unfold target
  cases ended : (names path).reverse.dropWhile (· == "") with
  | nil => simp only [ended]
  | cons last before =>
    have kept : last :: before ⊆ (names path).reverse := ended ▸ (List.dropWhile_suffix _).subset
    have part : before.reverse ⊆ names path := fun other ho =>
      List.mem_reverse.mp (kept (List.mem_cons_of_mem _ (List.mem_reverse.mp ho)))
    simp only [ended, same before.reverse part]

end DiffersBelow

end EntityGen.Tree
