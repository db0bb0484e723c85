import EntityGen.Proofs.Entity.Partition
import EntityGen.Proofs.Identifier.Canonical
import EntityGen.Proofs.Render.Go.Tags
import Mathlib.Data.List.Nodup

/-!
The identifiers of a struct. Every member is called after a name of its item (`Item.memberNames`), and a
reference that is held here points to its key by the key's identifier. Where the names are canonical and
distinct the identifiers are distinct too, and each reference points to the line right before it and to no
other (`members_apart`). -/
namespace EntityGen

/-- The names that the members of an item in a struct are called after, in order. -/
def Item.memberNames : Item → List String
  | .column c => [c.name]
  | .oneToOne r => if r.isInverse then [] else r.joinColumn.toList ++ [r.name]
  | .manyToOne r => [r.joinColumn, r.name]
  | .oneToMany _ => []
  | .manyToMany r => [r.name]

/-- The names of all members. -/
def Entity.memberNames (e : Entity) : List String := e.items.flatMap Item.memberNames

/-- The column of the key, if the item is a relation to one entity that is held here. -/
def Item.key? : Item → Option String
  | .oneToOne r => if r.isInverse then none else r.joinColumn
  | .manyToOne r => some r.joinColumn
  | _ => none

theorem Item.mem_memberNames_of_key {item : Item} {join : String} (key : item.key? = some join) :
    join ∈ item.memberNames := by
  rcases item with c | ⟨name, model, nullable, _ | _, join?, action, peer?⟩ | r | r | r
  · exact nomatch key
  · cases key
    exact List.mem_cons_self ..
  · exact nomatch key
  · cases key
    exact List.mem_cons_self ..
  · exact nomatch key
  · exact nomatch key

namespace Go
open Text

def Member.identifier : Member → String
  | tagged identifier _ _ _ => identifier
  | commented identifier _ _ => identifier

/-! ### Members -/

theorem Declares.identifiers {item : Item} {ms : List Member} (h : Declares item ms) :
    ms.map Member.identifier = item.memberNames.map Identifier.go := by
  cases h <;> rfl

/-- A reference that is held here is the member of its key and then its own, which points to it. -/
theorem Declares.reference {item : Item} {ms : List Member} (h : Declares item ms) {join : String}
    (key : item.key? = some join) :
    ∃ index model marks, ms = [
      .tagged (Identifier.go join) "uint32" ("index" :: index) [],
      .tagged (Identifier.go item.name) model (("foreignKey:" ++ Identifier.go join) :: marks) []] := by
  cases h with
  | owningOneToOne =>
    cases key
    exact ⟨_, _, _, rfl⟩
  | manyToOne =>
    cases key
    exact ⟨_, _, _, rfl⟩
  | column | inverseOneToOne | oneToMany | owningManyToMany | inverseManyToMany => exact nomatch key

theorem identifiers_of_members {className : String} {items : List Item} {own : List (List Member)}
    (h : List.Forall₂ (fun item ms => (members className item).outcome = .ok ms) items own) :
    own.flatten.map Member.identifier = (items.flatMap Item.memberNames).map Identifier.go := by
  have named : own.map (·.map Member.identifier) =
      items.map fun item => item.memberNames.map Identifier.go :=
    map_eq_map_of_forall₂ h fun _ _ declared => (declares_of_members declared).identifiers
  rw [List.map_flatten, named, List.map_flatMap, List.flatMap_def]

/-! ### Lines -/

/-- What a line starts with, up to the first space. -/
def firstWord (line : String) : String := String.ofList (line.toList.takeWhile (· ≠ ' '))

theorem firstWord_eq {line word : String} (h : ' ' ∉ word.toList) (rest : List Char)
    (spaced : rest.head?.all (· == ' ') = true) (hl : line.toList = word.toList ++ rest) :
    firstWord line = word := by
  have letters : ∀ c ∈ word.toList, decide (c ≠ ' ') = true := by
    intro c hc
    rw [decide_eq_true_eq]
    rintro rfl
    exact h hc
  have stop : rest.takeWhile (· ≠ ' ') = [] := by
    cases rest with
    | nil => rfl
    | cons c rest =>
      have space : c = ' ' := by simpa using spaced
      rw [List.takeWhile_cons_of_neg (by simp [space])]
  rw [firstWord, hl, List.takeWhile_append_of_pos letters, stop, List.append_nil, String.ofList_toList]

/-- The columns are the identifier, a space, and more. -/
theorem toList_firstColumns (identifier type : String) :
    ∃ rest, (firstColumns identifier type).toList = identifier.toList ++ ' ' :: rest := by
  simp only [firstColumns, String.toList_append, toList_padRight]
  generalize type.toList ++ List.replicate (12 - type.length) ' ' = second
  cases 25 - identifier.length with
  | zero => exact ⟨second, by simp⟩
  | succ n => exact ⟨List.replicate n ' ' ++ ' ' :: second, by simp [List.replicate_succ]⟩

/-- The line of a member starts with its identifier, if there is one and it has no blanks. -/
theorem firstWord_of_written {options : Options} {m : Member} {l : String} (h : Written options m l)
    (named : m.identifier ≠ "") (ink : ∀ c ∈ m.identifier.toList, isBlank c = false) :
    firstWord l = m.identifier := by
  have word : ' ' ∉ m.identifier.toList := fun space => absurd (ink _ space) (by decide)
  -- every way to be written goes on behind the columns, and only trimming could reach into them
  have columns : ∀ (type more : String), firstWord (firstColumns m.identifier type ++ more) = m.identifier := by
    intro type more
    obtain ⟨rest, cut⟩ := toList_firstColumns m.identifier type
    refine firstWord_eq word (' ' :: (rest ++ more.toList)) rfl ?_
    rw [String.toList_append, cut]
    simp
  cases h with
  | @untagged identifier type _ _ _ _ =>
    obtain ⟨rest, cut⟩ := toList_firstColumns identifier type
    have last : ∃ s c, identifier.toList = s ++ [c] := by
      rcases List.eq_nil_or_concat identifier.toList with none_left | some_left
      · exact absurd (String.toList_eq_nil_iff.mp none_left) named
      · simpa using some_left
    obtain ⟨s, c, hs⟩ := last
    have inked : isBlank c = false := ink c (by simp [Member.identifier, hs])
    obtain ⟨blanks, trimmed, -⟩ := exists_eq_trimEnd_append (' ' :: rest)
    refine firstWord_eq word (trimEnd (' ' :: rest)) ?_ ?_
    · cases kept : trimEnd (' ' :: rest) with
      | nil => rfl
      | cons d kept' =>
        rw [kept, List.cons_append] at trimmed
        simp [← (List.cons.inj trimmed).1]
    · show (String.ofList _).toList = identifier.toList ++ _
      rw [String.toList_ofList, cut, hs, List.append_assoc, List.singleton_append, trimEnd_append inked]
      simp
  | @storage identifier type | @validation identifier type | @both identifier type =>
    simp only [String.append_assoc]
    exact columns type _
  | @commented identifier type comment =>
    rw [String.append_assoc]
    exact columns type _

/-- Storage tags that are asked for stand behind the columns. -/
theorem line_of_storage {options : Options} (asked : options.storageTags = true) {identifier type tag : String}
    {tags : List String} :
    (Member.tagged identifier type (tag :: tags) []).line options =
      firstColumns identifier type ++ " `" ++ storageTag (tag :: tags) ++ "`" := by
  have written := written_line options (.tagged identifier type (tag :: tags) [])
  generalize (Member.tagged identifier type (tag :: tags) []).line options = l at written ⊢
  cases written with
  | untagged hs => exact absurd ⟨asked, List.cons_ne_nil _ _⟩ hs
  | storage => rfl
  | validation hs => exact absurd ⟨asked, List.cons_ne_nil _ _⟩ hs
  | both _ hv => exact absurd rfl hv.2

/-! ### Structs -/

/-- No ASCII letter or digit is blank. -/
theorem isBlank_of_alphanums : ∀ n < 128, (Char.ofNat n).isAlphanum = true → isBlank (Char.ofNat n) = false := by
  decide +kernel

theorem isBlank_of_isAlphanum {c : Char} (h : c.isAlphanum = true) : isBlank c = false := by
  have ink := isBlank_of_alphanums c.toNat (toNat_lt_of_isAlphanum h)
  rw [Char.ofNat_toNat] at ink
  exact ink h

/-- **The members of a struct keep apart.** If the names of an entity's members are canonical and distinct,
its struct has a line for each, which starts with the identifier made from it, and no two start alike. With
storage tags, the line of a relation to one entity that is held here names the key whose line stands right
before it, of type `uint32`, and no other line starts so. -/
theorem members_apart {options : Options} {e : Entity} {text : String}
    (written : (render options e).outcome = .ok text) (canonical : ∀ name ∈ e.memberNames, Canonical name)
    (distinct : e.memberNames.Nodup) :
    ∃ ls, text = unlines (structLines e.className e.table (ls.map ("    " ++ ·))) ∧
      ls.map firstWord = e.memberNames.map Identifier.go ∧ (ls.map firstWord).Nodup ∧
      (options.storageTags = true → ∀ item ∈ e.items, ∀ join, item.key? = some join →
        ∃ before after index model marks,
          ls = before ++
            (firstColumns (Identifier.go join) "uint32" ++ " `" ++ storageTag index ++ "`") ::
            (firstColumns (Identifier.go item.name) model ++ " `" ++
              storageTag (("foreignKey:" ++ Identifier.go join) :: marks) ++ "`") :: after ∧
          (ls.map firstWord).count (Identifier.go join) = 1) := by
  rw [outcome_render] at written
  obtain ⟨own, run, rfl⟩ := map_eq_ok_iff.mp written
  have declared := mapM_eq_ok_iff.mp run
  have identifiers : own.flatten.map Member.identifier = e.memberNames.map Identifier.go :=
    identifiers_of_members declared
  have words : (own.flatten.map (·.line options)).map firstWord = e.memberNames.map Identifier.go := by
    rw [← identifiers, List.map_map]
    refine List.map_congr_left fun m hm => ?_
    have listed : m.identifier ∈ e.memberNames.map Identifier.go :=
      identifiers ▸ List.mem_map.mpr ⟨m, hm, rfl⟩
    obtain ⟨name, hn, called⟩ := List.mem_map.mp listed
    refine firstWord_of_written (written_line options m) ?_ fun c hc => ?_
    · exact called ▸ Identifier.go_ne_empty (canonical name hn)
    · exact isBlank_of_isAlphanum (Identifier.isAlphanum_go (canonical name hn) c (called ▸ hc))
  have apart : (e.memberNames.map Identifier.go).Nodup :=
    distinct.map_on fun a ha b hb => Identifier.go_injective (canonical a ha) (canonical b hb)
  refine ⟨own.flatten.map (·.line options), ?_, words, words ▸ apart, fun asked item hi join key => ?_⟩
  · rw [declaration_eq_unlines, bodyLines, List.map_map]
    rfl
  · obtain ⟨before, ms, after, rfl, hms⟩ := exists_split_of_mem_forall₂ declared hi
    obtain ⟨index, model, marks, rfl⟩ := (declares_of_members hms).reference key
    refine ⟨before.flatten.map (·.line options), after.flatten.map (·.line options), "index" :: index, model,
      marks, ?_, ?_⟩
    · rw [List.flatten_append, List.flatten_cons, List.map_append, List.map_append, ← line_of_storage asked,
        ← line_of_storage asked]
      rfl
    · rw [words]
      have named : join ∈ e.memberNames := List.mem_flatMap.mpr ⟨item, hi, Item.mem_memberNames_of_key key⟩
      exact List.count_eq_one_of_mem apart (List.mem_map_of_mem named)

theorem members_apart_article :
    (∀ name ∈ Entity.article.memberNames, Canonical name) ∧ Entity.article.memberNames.Nodup ∧
      ∃ ls : List String, (render {} Entity.article).outcome =
          .ok (unlines (structLines "Article" "blog_article" (ls.map ("    " ++ ·)))) ∧
        ls.map firstWord = ["Title", "CoverId", "Cover", "AuthorId", "Author", "Tags", "Readers"] ∧
        (ls.map firstWord).count "AuthorId" = 1 := by
  have canonical : ∀ name ∈ Entity.article.memberNames, Canonical name := by decide +kernel
  have distinct : Entity.article.memberNames.Nodup := by decide
  have written : ∃ text, (render {} Entity.article).outcome = .ok text := ⟨_, rfl⟩
  obtain ⟨text, written⟩ := written
  obtain ⟨ls, rfl, words, -, references⟩ := members_apart written canonical distinct
  have author : Item.manyToOne ⟨"author", some "Author", "author_id", false, some "CASCADE"⟩ ∈
    Entity.article.items := by decide
  obtain ⟨-, -, -, -, -, -, once⟩ := references rfl _ author "author_id" rfl
  have identifiers : Entity.article.memberNames.map Identifier.go =
    ["Title", "CoverId", "Cover", "AuthorId", "Author", "Tags", "Readers"] := by decide +kernel
  exact ⟨canonical, distinct, ls, written, words.trans identifiers, once⟩

end Go

end EntityGen
