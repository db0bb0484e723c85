import EntityGen.Tree
import EntityGen.Proofs.Sequence

/-!
Reading what was written. Reading follows a path name by name, writing looks for the directory of its last
name; they end at the same place (`place_of_target`). So a file that was written holds its text, and every
other file what it held before (`replaced_of_write`). -/
namespace EntityGen

theorem decode_toUTF8 (text : String) : decode text.toUTF8 = .ok text := by
  have whole : String.fromUTF8? text.toUTF8 = some text := dif_pos text.isValidUTF8
  rw [decode, whole]

namespace Tree
variable {tree after : Tree} {here place : Place} {path text : String}

/-! ### Ways -/

theorem step_eq_ok_iff {name : String} :
    tree.step here name = .ok place ↔
      tree.isDirectory here = true ∧
        (if name == "" || name == "." then here else if name == ".." then here.dropLast
          else here ++ [name]) = place := by
  unfold step
  by_cases h : tree.isDirectory here = true
  · simp [h]
  · by_cases hf : (tree.file? here).isSome = true
    · simp [h, hf]
    · simp [h, hf]

theorem walk_cons (name : String) (names : List String) :
    tree.walk here (name :: names) = tree.step here name >>= fun next => tree.walk next names := rfl

theorem walk_append (first second : List String) :
    tree.walk here (first ++ second) = tree.walk here first >>= fun middle => tree.walk middle second :=
  List.foldlM_append

theorem walk_singleton (name : String) : tree.walk here [name] = tree.step here name := by
  rw [walk_cons]
  cases tree.step here name <;> rfl

/-- A way leads to the same place in a tree with the same directories. -/
theorem walk_of_directories (h : after.directories = tree.directories) {names : List String}
    (hw : tree.walk here names = .ok place) : after.walk here names = .ok place := by
  induction names generalizing here with
  | nil => exact hw
  | cons name names ih =>
    rw [walk_cons] at hw ⊢
    obtain ⟨next, hs, hw⟩ := bind_eq_ok_iff.mp hw
    rw [step_eq_ok_iff] at hs
    have same : after.step here name = .ok next := by
      rw [step_eq_ok_iff, isDirectory, h]
      exact hs
    rw [same]
    exact ih hw

theorem place_of_directories (h : after.directories = tree.directories)
    (hp : tree.place here path = .ok place) : after.place here path = .ok place := by
  unfold Tree.place at hp ⊢
  split at hp
  · exact nomatch hp
  · next nonempty =>
    rw [if_neg nonempty]
    exact walk_of_directories h hp

/-! ### Targets -/

/-- The last name of a path that can be written to is a file's, in a directory that is there. -/
theorem names_of_target (h : tree.target here path = .ok place) :
    path.isEmpty = false ∧ ∃ before last directory, names path = before ++ [last] ∧
      last ≠ "" ∧ last ≠ "." ∧ last ≠ ".." ∧
      tree.walk (origin here path) (before ++ ["."]) = .ok directory ∧ directory ++ [last] = place := by
  unfold target at h
  cases empty : path.isEmpty with
  | true => simp [empty, bind, Except.bind, throw, throwThe, MonadExceptOf.throw] at h
  | false =>
    refine ⟨rfl, ?_⟩
    simp only [empty, bind, Except.bind, throw, throwThe, MonadExceptOf.throw, Bool.false_eq_true, if_false,
      pure, Except.pure] at h
    split at h
    · exact nomatch h
    · next last before ended =>
      split at h
      · exact nomatch h
      · next directory way =>
        split at h
        · exact nomatch h
        · next file =>
          simp only [Bool.or_eq_true, decide_eq_true_eq, beq_iff_eq, not_or, Nat.not_lt] at file
          obtain ⟨⟨whole, dot⟩, dots⟩ := file
          -- Nothing was dropped at the end of the path.
          have kept := (List.dropWhile_suffix (· == "")).eq_of_length_le whole
          rw [ended] at kept
          have named := List.head?_dropWhile_not (· == "") (names path).reverse
          rw [ended] at named
          have split : names path = before.reverse ++ [last] := by
            rw [← List.reverse_reverse (names path), ← kept, List.reverse_cons]
          exact ⟨before.reverse, last, directory, split, by simpa using named, dot, dots, way,
            Except.ok.inj h⟩

/-- What is written to a path is found there. -/
theorem place_of_target (h : tree.target here path = .ok place) : tree.place here path = .ok place := by
  obtain ⟨nonempty, before, last, directory, split, named, dot, dots, way, rfl⟩ := names_of_target h
  rw [walk_append] at way
  obtain ⟨middle, there, stay⟩ := bind_eq_ok_iff.mp way
  rw [walk_singleton, step_eq_ok_iff] at stay
  obtain ⟨held, stay⟩ := stay
  have same : middle = directory := by simpa using stay
  subst same
  rw [Tree.place, if_neg (by simp [nonempty]), split, walk_append, there]
  show tree.walk middle [last] = .ok (middle ++ [last])
  rw [walk_singleton, step_eq_ok_iff]
  exact ⟨held, by simp [named, dot, dots]⟩

/-! ### Writes -/

theorem write_eq_ok_iff :
    tree.write here path text = .ok after ↔
      ∃ place, tree.target here path = .ok place ∧ tree.isDirectory place = false ∧
        { tree with files := setFile place text.toUTF8 tree.files } = after := by
  unfold write
  cases ht : tree.target here path with
  | error fault => simp [bind, Except.bind]
  | ok place =>
    by_cases hd : tree.isDirectory place = true
    · simp [bind, Except.bind, hd, throw, throwThe, MonadExceptOf.throw]
    · simp [bind, Except.bind, hd, pure, Except.pure]

/-- Where bytes are found. -/
theorem bytes_of_place {content : ByteArray} (hp : tree.place here path = .ok place)
    (hd : tree.isDirectory place = false) (hf : tree.file? place = some content) :
    tree.bytes here path = .ok content := by
  simp [bytes, hp, hd, hf, bind, Except.bind, pure, Except.pure]

theorem read_of_place (hp : tree.place here path = .ok place) (hd : tree.isDirectory place = false)
    (hf : tree.file? place = some text.toUTF8) : tree.read here path = .ok text := by
  rw [read, bytes_of_place hp hd hf]
  exact decode_toUTF8 text

/-- A tree in which a text has become the content of the file at a path. -/
structure Replaced (tree : Tree) (here : Place) (path text : String) (after : Tree) : Prop where
  /-- The file holds the text. -/
  holds : after.read here path = .ok text
  /-- Every other file is as it was. -/
  others : ∃ place, tree.target here path = .ok place ∧
    ∀ p, after.file? p = if p = place then some text.toUTF8 else tree.file? p
  directories : after.directories = tree.directories

theorem replaced_of_write (h : tree.write here path text = .ok after) :
    tree.Replaced here path text after := by
  obtain ⟨place, target, found⟩ := file?_write h
  obtain ⟨place', target', file, replaced⟩ := write_eq_ok_iff.mp h
  cases target.symm.trans target'
  have directories : after.directories = tree.directories := by rw [← replaced]
  have file' : after.isDirectory place = false := by rwa [isDirectory, directories]
  refine ⟨?_, ⟨place, target, found⟩, directories⟩
  have way := place_of_directories directories (place_of_target target)
  exact read_of_place way file' ((found place).trans (if_pos rfl))

end Tree

end EntityGen
