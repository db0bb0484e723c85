import EntityGen.Surroundings

/-!
A tree of directories and files as a value. A path leads from a directory down by names and up by `..`,
and no further than a file; what is read or written is looked up under the place where it leads. -/
namespace EntityGen

/-- The names that lead from the root of a tree to a place in it. -/
abbrev Place := List String

structure Tree where
  directories : List Place
  files : List (Place × ByteArray)

namespace Tree

/-- The directories on the way to a place. -/
def above : Place → List Place
  | [] => []
  | name :: rest => [] :: (above rest).map (name :: ·)

/-- The tree with these files, and with these directories besides those that the files are in. -/
def ofFiles (directories : List Place) (files : List (Place × ByteArray)) : Tree where
  directories := [] :: directories ++ files.flatMap fun (place, _) => above place
  files := files

variable (tree : Tree)

def isDirectory (place : Place) : Bool := tree.directories.contains place

def file? (place : Place) : Option ByteArray := tree.files.lookup place

/-- One step of a path. An empty name and a dot lead nowhere else, but the step is from a directory. -/
def step (here : Place) (name : String) : Except FileFault Place :=
  if tree.isDirectory here then
    .ok (if name == "" || name == "." then here
      else if name == ".." then here.dropLast
      else here ++ [name])
  else if (tree.file? here).isSome then .error .notDirectory
  else .error .notFound

/-- Where names lead from a place. -/
def walk (here : Place) (names : List String) : Except FileFault Place := names.foldlM tree.step here

/-- The names in a path, some of them empty. -/
def names (path : String) : List String := (path.toList.splitOn '/').map String.ofList

/-- Where a path starts: at the root if it starts with a slash. -/
def origin (here : Place) (path : String) : Place := if path.toList.head? == some '/' then [] else here

/-- The place that a path leads to, which need not be there. -/
def place (here : Place) (path : String) : Except FileFault Place :=
  if path.isEmpty then .error .notFound else tree.walk (origin here path) (names path)

/-- The bytes of a file. -/
def bytes (here : Place) (path : String) : Except FileFault ByteArray := do
  let place ← tree.place here path
  if tree.isDirectory place then throw .isDirectory
  match tree.file? place with
  | some content => return content
  | none => throw .notFound

def read (here : Place) (path : String) : Except FileFault String :=
  tree.bytes here path >>= decode

/-- The files with the content of one replaced, or added at the end. -/
def setFile (place : Place) (content : ByteArray) : List (Place × ByteArray) → List (Place × ByteArray)
  | [] => [(place, content)]
  | (p, c) :: rest => if p == place then (place, content) :: rest else (p, c) :: setFile place content rest

/-- The place that a file is written to: the last name of its path, in a directory that is there. A path
that can only be a directory's is none. -/
def target (here : Place) (path : String) : Except FileFault Place := do
  if path.isEmpty then throw .notFound
  let reversed := (names path).reverse
  let ended := reversed.dropWhile (· == "")
  match ended with
  | [] => throw .isDirectory
  | last :: before =>
    let directory ← tree.walk (origin here path) (before.reverse ++ ["."])
    if ended.length < reversed.length || last == "." || last == ".." then throw .isDirectory
    return directory ++ [last]

def write (here : Place) (path : String) (text : String) : Except FileFault Tree := do
  let place ← tree.target here path
  if tree.isDirectory place then throw .isDirectory
  return { tree with files := setFile place text.toUTF8 tree.files }

/-! ### Runs in a tree -/

/-- A tree as the surroundings of a run in one of its directories, with bytes that are fed to it. A
failed write leaves the tree as it is. -/
def surroundings (here : Place) (input : ByteArray) (userSettings : Option String) :
    Surroundings (StateM Tree) where
  read path := do return (← get).read here path
  write path text := do
    match (← get).write here path text with
    | .error fault => return .error fault
    | .ok tree => set tree; return .ok ()
  input := return decode input
  userSettings := userSettings

/-! ### Files -/

theorem lookup_setFile (place p : Place) (content : ByteArray) (files : List (Place × ByteArray)) :
    (setFile place content files).lookup p = if p = place then some content else files.lookup p := by
  induction files with
  | nil =>
    by_cases h : p = place
    · simp [setFile, h]
    · simp [setFile, List.lookup_cons, beq_eq_false_iff_ne.2 h, h]
  | cons entry rest ih =>
    obtain ⟨q, c⟩ := entry
    rw [setFile]
    by_cases hq : q = place
    · by_cases h : p = place
      · simp [hq, h]
      · simp [List.lookup_cons, hq, beq_eq_false_iff_ne.2 h, h]
    · by_cases h : p = q
      · simp [hq, h]
      · simp [List.lookup_cons, hq, beq_eq_false_iff_ne.2 h, ih]

/-- A write changes one file. -/
theorem file?_write {tree after : Tree} {here : Place} {path text : String}
    (h : tree.write here path text = .ok after) :
    ∃ place, tree.target here path = .ok place ∧
      ∀ p, after.file? p = if p = place then some text.toUTF8 else tree.file? p := by
  unfold write at h
  cases ht : tree.target here path with
  | error fault => rw [ht] at h; exact absurd h (by simp [bind, Except.bind])
  | ok place =>
    rw [ht] at h
    refine ⟨place, rfl, fun p => ?_⟩
    by_cases hd : tree.isDirectory place
    · exact absurd h (by simp [bind, Except.bind, hd, throw, throwThe, MonadExceptOf.throw])
    · obtain rfl : { tree with files := setFile place text.toUTF8 tree.files } = after := by
        simpa [bind, Except.bind, hd, pure, Except.pure] using h
      exact lookup_setFile place p text.toUTF8 tree.files

end Tree

end EntityGen
