import EntityGen.Proofs.Render.Go.MemberLines
import EntityGen.Proofs.Render.Go.Tags

/-!
The layout of the lines of members. Columns are padded and never cut, and behind the last of them nothing is left,
so a line is its columns with spaces between them (`spaced_tagged`, `spaced_commented`). If the first two columns
are tokens, they are the first two tokens of the line, and the last column is what stands behind them
(`readColumns_of_spaced`), whatever is in it. -/
namespace EntityGen.Text

/-! ### Tokens -/

/-- The first token of a text: from the first character that is not blank up to the next blank. -/
def token (s : List Char) : List Char := (trimStart s).takeWhile fun c => !isBlank c

/-- What stands behind the first token. -/
def behindToken (s : List Char) : List Char := (trimStart s).dropWhile fun c => !isBlank c

/-- At least one character, and no blank. -/
structure IsToken (s : List Char) : Prop where
  nonempty : s ≠ []
  ink : ∀ c ∈ s, isBlank c = false

theorem isToken_iff {s : List Char} : IsToken s ↔ s ≠ [] ∧ s.all (fun c => !isBlank c) = true := by
  simp only [List.all_eq_true, Bool.not_eq_true']
  exact ⟨fun h => ⟨h.nonempty, h.ink⟩, fun h => ⟨h.1, h.2⟩⟩

instance (s : List Char) : Decidable (IsToken s) := decidable_of_iff _ isToken_iff.symm

theorem trimStart_of_ink {s : List Char} (h : ∀ c ∈ s.head?, isBlank c = false) : trimStart s = s := by
  cases s with
  | nil => rfl
  | cons c rest => exact List.dropWhile_cons_of_neg (by simp [h c rfl])

theorem isBlank_of_mem_spaces {n : Nat} : ∀ c ∈ List.replicate n ' ', isBlank c = true := fun _ hc =>
  List.eq_of_mem_replicate hc ▸ by decide

theorem isBlank_head_spaces (n : Nat) (s : List Char) :
    ∀ c ∈ (List.replicate (n + 1) ' ' ++ s).head?, isBlank c = true := by
  intro c hc
  rw [List.replicate_succ, List.cons_append, List.head?_cons] at hc
  exact Option.some.inj hc ▸ by decide

theorem trimStart_spaces (n : Nat) (s : List Char) : trimStart (List.replicate n ' ' ++ s) = trimStart s :=
  List.dropWhile_append_of_pos isBlank_of_mem_spaces

namespace IsToken
variable {word rest : List Char} (h : IsToken word)
include h

theorem head_append (rest : List Char) : ∀ c ∈ (word ++ rest).head?, isBlank c = false := by
  obtain ⟨c, cs, rfl⟩ := List.exists_cons_of_ne_nil h.nonempty
  intro d hd
  exact h.ink d (by simp_all)

variable (stop : ∀ c ∈ rest.head?, isBlank c = true)
include stop

/-- A token ends where a blank comes, or at the end. -/
theorem token_append : token (word ++ rest) = word := by
  have letters : ∀ c ∈ word, (!isBlank c) = true := fun c hc => by simp [h.ink c hc]
  rw [token, trimStart_of_ink (h.head_append rest), List.takeWhile_append_of_pos letters]
  cases rest with
  | nil => simp
  | cons c rest => simp [stop c rfl]

theorem behindToken_append : behindToken (word ++ rest) = rest := by
  have letters : ∀ c ∈ word, (!isBlank c) = true := fun c hc => by simp [h.ink c hc]
  rw [behindToken, trimStart_of_ink (h.head_append rest), List.dropWhile_append_of_pos letters]
  cases rest with
  | nil => rfl
  | cons c rest => exact List.dropWhile_cons_of_neg (by simp [stop c rfl])

end IsToken

theorem token_spaces (n : Nat) (s : List Char) : token (List.replicate n ' ' ++ s) = token s := by
  rw [token, trimStart_spaces, token]

theorem behindToken_spaces (n : Nat) (s : List Char) :
    behindToken (List.replicate n ' ' ++ s) = behindToken s := by
  rw [behindToken, trimStart_spaces, behindToken]

end EntityGen.Text

namespace EntityGen.Go
open Text

/-! ### Lines and their columns -/

/-- The columns of a line: its first two tokens, and what stands behind them. -/
def readColumns (line : String) : String × String × String :=
  (String.ofList (token line.toList), String.ofList (token (behindToken line.toList)),
    String.ofList (trimStart (behindToken (behindToken line.toList))))

/-- A line is three columns with spaces between them. The last may be empty, and then nothing stands behind the
second. -/
def Spaced (identifier type last line : String) : Prop :=
  ∃ gap room : Nat,
    line.toList = identifier.toList ++ (List.replicate (gap + 1) ' ' ++
      (type.toList ++ (List.replicate room ' ' ++ last.toList))) ∧ (room = 0 → last = "")

/-- Columns are read back, be they shorter or longer than the layout has room for. -/
theorem readColumns_of_spaced {identifier type last line : String} (hi : IsToken identifier.toList)
    (ht : IsToken type.toList) (hl : ∀ c ∈ last.toList.head?, isBlank c = false)
    (h : Spaced identifier type last line) : readColumns line = (identifier, type, last) := by
  obtain ⟨gap, room, spaced, none_left⟩ := h
  have first := isBlank_head_spaces gap (type.toList ++ (List.replicate room ' ' ++ last.toList))
  have second : ∀ c ∈ (List.replicate room ' ' ++ last.toList).head?, isBlank c = true := by
    cases room with
    | zero => simp [none_left rfl]
    | succ n => exact isBlank_head_spaces n _
  rw [readColumns, spaced, hi.token_append first, hi.behindToken_append first, token_spaces, behindToken_spaces,
    ht.token_append second, ht.behindToken_append second, trimStart_spaces, trimStart_of_ink hl]
  simp only [String.ofList_toList]

/-! ### The lines of members -/

/-- Tags are nothing, or stand between backticks. -/
theorem tags_eq_empty_or (options : Options) (storage validation : List String) :
    tags options storage validation = "" ∨ ∃ parts, tags options storage validation = "`" ++ parts ++ "`" := by
  rw [tags_eq]
  split
  · exact .inl rfl
  · exact .inr ⟨_, rfl⟩

section Columns
variable {identifier type : String}

theorem toList_columns (last : String) :
    (columns identifier type last).toList =
      identifier.toList ++ (List.replicate (25 - identifier.length + 1) ' ' ++
        (type.toList ++ (List.replicate (12 - type.length + 1) ' ' ++ last.toList))) := by
  simp [columns, toList_padRight, List.replicate_succ']

theorem spaced_columns (last : String) : Spaced identifier type last (columns identifier type last) :=
  ⟨_, _, toList_columns last, nofun⟩

theorem spaced_commented (options : Options) (comment : String) :
    Spaced identifier type comment ((Member.commented identifier type comment).line options) :=
  spaced_columns comment

/-- Without tags the line ends with the type. -/
theorem toList_line_untagged {options : Options} {storage validation : List String} (ht : IsToken type.toList)
    (untagged : tags options storage validation = "") :
    ((Member.tagged identifier type storage validation).line options).toList =
      identifier.toList ++ (List.replicate (25 - identifier.length + 1) ' ' ++ type.toList) := by
  obtain ⟨front, c, spelled⟩ : ∃ front c, type.toList = front ++ [c] :=
    ⟨_, _, (List.dropLast_append_getLast ht.nonempty).symm⟩
  have ink : isBlank c = false := ht.ink c (by simp [spelled])
  have cut : (columns identifier type "").toList =
      identifier.toList ++ (List.replicate (25 - identifier.length + 1) ' ' ++ front) ++ [c] ++
        List.replicate (12 - type.length + 1) ' ' := by
    rw [toList_columns, spelled]
    simp
  rw [Member.line, untagged, String.toList_ofList, cut, trimEnd_append_blank isBlank_of_mem_spaces,
    trimEnd_append_singleton ink, spelled]
  simp

theorem spaced_tagged (options : Options) (storage validation : List String) (ht : IsToken type.toList) :
    Spaced identifier type (tags options storage validation)
      ((Member.tagged identifier type storage validation).line options) := by
  rcases tags_eq_empty_or options storage validation with untagged | ⟨parts, tagged⟩
  · refine ⟨25 - identifier.length, 0, ?_, fun _ => untagged⟩
    rw [toList_line_untagged ht untagged, untagged]
    simp
  · have whole : (Member.tagged identifier type storage validation).line options =
        columns identifier type (tags options storage validation) := by
      rw [line_of_tags_eq tagged, tagged]
      simp [← String.toList_inj, columns, firstColumns]
    rw [whole]
    exact spaced_columns _

theorem getLast_line (options : Options) (storage validation : List String) (ht : IsToken type.toList) :
    ∀ c ∈ ((Member.tagged identifier type storage validation).line options).toList.getLast?,
      isBlank c = false := by
  intro c hc
  rcases tags_eq_empty_or options storage validation with untagged | ⟨parts, tagged⟩
  · rw [toList_line_untagged ht untagged, ← List.append_assoc,
      List.getLast?_append_of_ne_nil _ ht.nonempty] at hc
    exact ht.ink c (List.mem_of_getLast? hc)
  · rw [line_of_tags_eq tagged, String.toList_append, List.getLast?_append_of_ne_nil _ (by decide)] at hc
    have tick : '`' = c := by simpa using hc
    exact tick ▸ by decide

end Columns

/-! ### Members by their lines -/

/-- The columns of a member: its identifier, its type, and its tags or its comment. -/
def Member.columns (options : Options) : Member → String × String × String
  | tagged identifier type storage validation => (identifier, type, tags options storage validation)
  | commented identifier type comment => (identifier, type, comment)

/-- The identifier and the type are tokens, and a comment refers back to the other side. -/
inductive Member.Legible : Member → Prop
  | tagged {identifier type : String} {storage validation : List String} (hi : IsToken identifier.toList)
    (ht : IsToken type.toList) : Legible (.tagged identifier type storage validation)
  | commented {identifier type comment : String} {slots : Slots} {field : String} (hi : IsToken identifier.toList)
    (ht : IsToken type.toList) (hc : Template.fill backReference slots field = .ok comment) :
    Legible (.commented identifier type comment)

/-- Whatever a comment refers back to, it starts with a slash. -/
theorem head_backReference {slots : Slots} {field comment : String}
    (h : Template.fill backReference slots field = .ok comment) :
    ∀ c ∈ comment.toList.head?, isBlank c = false := by
  obtain ⟨model, -, peer, -, rfl⟩ := fill_backReference_eq_ok_iff.mp h
  intro c hc
  have slash : '/' = c := by simpa using hc
  exact slash ▸ by decide

theorem head_tags (options : Options) (storage validation : List String) :
    ∀ c ∈ (tags options storage validation).toList.head?, isBlank c = false := by
  intro c hc
  rcases tags_eq_empty_or options storage validation with untagged | ⟨parts, tagged⟩
  · simp [untagged] at hc
  · have tick : '`' = c := by simpa [tagged] using hc
    exact tick ▸ by decide

theorem readColumns_line {m : Member} (h : m.Legible) (options : Options) :
    readColumns (m.line options) = m.columns options := by
  cases h with
  | tagged hi ht => exact readColumns_of_spaced hi ht (head_tags _ _ _) (spaced_tagged options _ _ ht)
  | commented hi ht hc => exact readColumns_of_spaced hi ht (head_backReference hc) (spaced_commented options _)

/-- **The line of a member tells its columns.** Let the identifier and the type of a member be tokens, of any length.
They are the first two tokens of its line, and behind them stands as it is its comment or what there is of its tags,
nothing or a text between backticks; a line of tags has no blank at its end. So members with the same line have the
same identifier, the same type, and the same tags or comment. -/
theorem line_tells_columns (options : Options) {m : Member} (h : m.Legible) :
    readColumns (m.line options) = m.columns options ∧
    (∀ identifier type storage validation, m = .tagged identifier type storage validation →
      (∀ c ∈ (m.line options).toList.getLast?, isBlank c = false) ∧
      (tags options storage validation = "" ∨ ∃ parts, tags options storage validation = "`" ++ parts ++ "`")) ∧
    ∀ (others : Options) (other : Member), other.Legible → other.line others = m.line options →
      other.columns others = m.columns options := by
  refine ⟨readColumns_line h options, ?_, fun others other legible same => ?_⟩
  · rintro identifier type storage validation rfl
    cases h with
    | tagged hi ht => exact ⟨getLast_line options storage validation ht, tags_eq_empty_or ..⟩
  · rw [← readColumns_line h options, ← readColumns_line legible others, same]

/-- Columns that there is no room for, tags with spaces in them, and no tags. -/
theorem line_tells_columns_overlong :
    let m : Member :=
      .tagged "AVeryLongIdentifierOfAMember" "datatypes.JSONSlice" ["not null", "index"] ["oneof=a b"]
    let line := "AVeryLongIdentifierOfAMember datatypes.JSONSlice `gorm:\"not null;index\" validate:\"oneof=a b\"`"
    m.line {} = line ∧
      readColumns line = ("AVeryLongIdentifierOfAMember", "datatypes.JSONSlice",
        "`gorm:\"not null;index\" validate:\"oneof=a b\"`") ∧
      readColumns "Readers                   []*User      // back-reference to User.Books" =
        ("Readers", "[]*User", "// back-reference to User.Books") := by
  intro m line
  have legible : m.Legible := .tagged (by decide) (by decide)
  have told : Template.fill backReference { relatedModel := some "User", peerField := some "Books" } "readers" =
      .ok "// back-reference to User.Books" := rfl
  have inverse : (Member.commented "Readers" "[]*User" "// back-reference to User.Books").Legible :=
    .commented (by decide) (by decide) told
  have written : m.line {} = line := by decide
  have drawn : (Member.commented "Readers" "[]*User" "// back-reference to User.Books").line {} =
      "Readers                   []*User      // back-reference to User.Books" := by decide
  refine ⟨written, ?_, ?_⟩
  · rw [← written]
    exact (line_tells_columns {} legible).1
  · rw [← drawn]
    exact (line_tells_columns {} inverse).1

end EntityGen.Go
