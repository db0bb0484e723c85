import EntityGen.Command.Arguments
import EntityGen.Proofs.Sequence
import EntityGen.Proofs.Text.Separated
import Mathlib.Data.List.TakeWhile

/-!
The spellings of options. What the words so far have settled is all that counts once a flag comes
(`Scan.finish_of_settles`), and the values of an option are settled alike whether they came in one word or in
several, behind one flag or behind many (`take_joined`). So all ways to spell the same names for apps and languages
are parsed alike, whatever follows them (`spellings_parsed_alike`). -/
namespace EntityGen.Command
open Text

/-! ### Flags -/

/-- The word is read as a flag, or it closes flags off: it has a dash and something behind it. -/
def isFlag (word : String) : Bool :=
  match word.toList with
  | '-' :: _ :: _ => true
  | _ => false

/-- No value and no manifest comes: the words end here, or go on with a flag. -/
def Flagged (words : List String) : Prop := ∀ word ∈ words.head?, isFlag word = true

namespace Scan

/-! ### The next word -/

section Next
variable {scan : Scan} {word : String} (opened : scan.closed = false)
include opened

theorem next_dashes (spelled : word.toList = ['-', '-']) : scan.next word = .ok { scan with closed := true } := by
  simp [next, opened, spelled]

theorem next_long {rest : List Char} (named : rest ≠ []) (spelled : word.toList = '-' :: '-' :: rest) :
    scan.next word = scan.long word rest := by
  obtain ⟨c, rest, rfl⟩ := List.exists_cons_of_ne_nil named
  simp [next, opened, spelled]

theorem next_short {letter : Char} {rest : List Char} (single : letter ≠ '-')
    (spelled : word.toList = '-' :: letter :: rest) : scan.next word = short word scan (letter :: rest) := by
  simp only [next, opened, spelled, Bool.false_eq_true, if_false]
  split
  · next dashes => exact absurd (List.cons.inj (List.cons.inj dashes).2).1 single
  · next dashes => exact absurd (List.cons.inj (List.cons.inj dashes).2).1 single
  · next one => exact absurd (congrArg List.length one) (by simp)
  · next same => rw [(List.cons.inj same).2]
  · next other => exact absurd rfl (other _)

theorem next_plain (plain : word.toList.head? ≠ some '-') : scan.next word = scan.plain word := by
  simp only [next, opened, Bool.false_eq_true, if_false]
  split
  · next spelled => simp [spelled] at plain
  · next spelled => simp [spelled] at plain
  · rfl
  · next spelled => simp [spelled] at plain
  · rfl

end Next

/-! ### What is settled -/

/-- All that is pending in the scan is settled to the draft, and flags are not closed off. -/
structure Settles (scan : Scan) (draft : Draft) : Prop where
  opened : scan.closed = false
  settled : scan.settle = .ok { draft }
  manifest : scan.hasManifest = draft.manifest.isSome

theorem settles_draft (draft : Draft) : Settles { draft } draft := ⟨rfl, rfl, by simp [hasManifest]⟩

/-- To close flags off settles nothing. -/
theorem settle_close (scan : Scan) :
    { scan with closed := true }.settle = scan.settle.map fun after => { after with closed := true } := by
  obtain ⟨draft, pending, closed⟩ := scan
  cases pending with
  | nothing => rfl
  | manifest word => cases h : draft.takeManifest word <;> simp [settle, h, Except.map]
  | values option words =>
    cases words with
    | nil => rfl
    | cons word words => cases h : draft.take option (word :: words) <;> simp [settle, h, Except.map]

section Settles
variable {scan : Scan} {draft : Draft} (h : scan.Settles draft)
include h

theorem startOption_of_settles (option : Valued) (attached : Option String) :
    scan.startOption option attached = startOption { draft } option attached := by
  rw [startOption, h.settled]
  rfl

theorem throwSwitch_of_settles (switch : Switch) : scan.throwSwitch switch = throwSwitch { draft } switch := by
  rw [throwSwitch, h.settled]
  rfl

theorem long_of_settles (word : String) (rest : List Char) : scan.long word rest = long { draft } word rest := by
  simp only [long, startOption_of_settles h, throwSwitch_of_settles h]

theorem short_of_settles (word : String) (letter : Char) (rest : List Char) :
    short word scan (letter :: rest) = short word { draft } (letter :: rest) := by
  simp only [short, startOption_of_settles h, throwSwitch_of_settles h]

/-- Behind the end of flags every word is the manifest or too many, whatever is pending. -/
theorem finish_closed_of_settles (rest : List String) :
    finish { scan with closed := true } rest = finish { draft, closed := true } rest := by
  have settled : { scan with closed := true }.settle = .ok { draft, closed := true } := by
    rw [settle_close, h.settled]
    rfl
  have manifest : { scan with closed := true }.hasManifest = hasManifest { draft, closed := true } :=
    h.manifest.trans (settles_draft draft).manifest.symm
  cases rest with
  | nil =>
    rw [finish, settled]
    rfl
  | cons word rest =>
    simp only [finish, next, positional, manifest, settled]
    rfl

/-- When a flag comes, only what is settled counts. -/
theorem finish_of_settles {rest : List String} (flagged : Flagged rest) :
    finish scan rest = finish { draft } rest := by
  cases rest with
  | nil =>
    rw [finish, h.settled]
    rfl
  | cons word rest =>
    have flag : isFlag word = true := flagged word rfl
    unfold isFlag at flag
    split at flag
    · next letter letters spelled =>
      rw [finish, finish]
      by_cases dashes : letter = '-'
      · subst dashes
        cases letters with
        | nil =>
          rw [next_dashes h.opened spelled, next_dashes rfl spelled]
          exact finish_closed_of_settles h rest
        | cons c letters =>
          have named : c :: letters ≠ [] := List.cons_ne_nil _ _
          rw [next_long h.opened named spelled, next_long rfl named spelled, long_of_settles h]
      · rw [next_short h.opened dashes spelled, next_short rfl dashes spelled, short_of_settles h]
    · exact nomatch flag

end Settles

end Scan

/-! ### Names -/

/-- A name that a word can bring by itself or among others: it is there, it has no comma, and it does not look like
a flag. -/
def IsName (name : String) : Prop := name ≠ "" ∧ ',' ∉ name.toList ∧ name.toList.head? ≠ some '-'

instance (name : String) : Decidable (IsName name) := by unfold IsName; infer_instance

section Language
variable {name : String} {dialect : Dialect} (h : Draft.language name = .ok dialect)
include h

theorem mem_languageNames_of_language : (name, dialect) ∈ languageNames := by
  unfold Draft.language at h
  split at h
  · next known =>
    cases h
    obtain ⟨before, after, table, -⟩ := List.lookup_eq_some_iff.mp known
    exact table ▸ List.mem_append_right _ (List.mem_cons_self ..)
  · exact nomatch h

/-- Languages go by such names. -/
theorem isName_of_language : IsName name := by
  have listed : ∀ entry ∈ languageNames, IsName entry.1 := by decide
  exact listed (name, dialect) (mem_languageNames_of_language h)

end Language

namespace Draft
variable {names : List String}

/-- Names with commas between them are one word. -/
theorem values_sepBy (some_name : names ≠ []) (plain : ∀ name ∈ names, ',' ∉ name.toList) :
    values (sepBy "," names) = names :=
  (cutAt_sepBy some_name).trans (flatMap_cutAt_of_not_mem plain)

theorem values_of_not_mem {name : String} (plain : ',' ∉ name.toList) : values name = [name] :=
  cutAt_of_not_mem plain

theorem take_cons (option : Valued) (draft : Draft) (word : String) (words : List String) :
    take option draft (word :: words) = takeWord option draft word >>= (take option · words) := rfl

/-- Options leave the manifest alone. -/
theorem manifest_of_takeWord {option : Valued} {draft after : Draft} {word : String}
    (taken : takeWord option draft word = .ok after) : after.manifest = draft.manifest := by
  cases option with
  | apps =>
    cases taken
    rfl
  | languages =>
    obtain ⟨dialects, -, rfl⟩ := map_eq_ok_iff.mp taken
    rfl
  | output =>
    simp only [takeWord] at taken
    split at taken
    · exact nomatch taken
    · split at taken
      · exact nomatch taken
      · cases taken
        rfl

theorem manifest_of_take {option : Valued} {draft after : Draft} {words : List String}
    (taken : take option draft words = .ok after) : after.manifest = draft.manifest := by
  induction words generalizing draft with
  | nil =>
    cases taken
    rfl
  | cons word words ih =>
    obtain ⟨middle, first, rest⟩ := bind_eq_ok_iff.mp taken
    exact (ih rest).trans (manifest_of_takeWord first)

section Plain
variable (plain : ∀ name ∈ names, ',' ∉ name.toList)
include plain

theorem take_apps (draft : Draft) : take .apps draft names = .ok { draft with apps := draft.apps ++ names } := by
  induction names generalizing draft with
  | nil => simp [take, pure, Except.pure]
  | cons name names ih =>
    obtain ⟨first, rest⟩ := List.forall_mem_cons.mp plain
    rw [take_cons, takeWord, values_of_not_mem first]
    show take .apps { draft with apps := draft.apps ++ [name] } names = _
    rw [ih rest]
    simp

theorem take_languages (draft : Draft) :
    take .languages draft names =
      (names.mapM language).map fun dialects => { draft with languages := draft.languages ++ dialects } := by
  induction names generalizing draft with
  | nil => simp [take, pure, Except.pure, Except.map]
  | cons name names ih =>
    obtain ⟨first, rest⟩ := List.forall_mem_cons.mp plain
    rw [take_cons, takeWord, values_of_not_mem first, mapM_cons_eq, mapM_cons_eq]
    cases language name with
    | error error => rfl
    | ok dialect =>
      show take .languages { draft with languages := draft.languages ++ [dialect] } names = _
      rw [ih rest]
      show _ = ((names.mapM language).map (dialect :: ·)).map _
      cases names.mapM language <;> simp [Except.map]

/-- One word with all the names gives what a word for each of them gives. -/
theorem takeWord_joined {option : Valued} (listed : option ≠ .output) (some_name : names ≠ []) (draft : Draft) :
    takeWord option draft (sepBy "," names) = take option draft names := by
  have cut := values_sepBy some_name plain
  cases option with
  | apps => rw [take_apps plain, takeWord, cut]
  | languages => rw [take_languages plain, takeWord, cut]
  | output => exact absurd rfl listed

end Plain

/-- So do words with some of the names each. -/
theorem take_joined {option : Valued} (listed : option ≠ .output) {chunks : List (List String)}
    (some_name : [] ∉ chunks) (plain : ∀ name ∈ chunks.flatten, ',' ∉ name.toList) (draft : Draft) :
    take option draft (chunks.map (sepBy ",")) = take option draft chunks.flatten := by
  induction chunks generalizing draft with
  | nil => rfl
  | cons chunk chunks ih =>
    obtain ⟨first, rest⟩ := not_or.mp (mt List.mem_cons.mpr some_name)
    rw [List.flatten_cons, List.forall_mem_append] at plain
    rw [List.map_cons, List.flatten_cons, take_cons, take_append,
      takeWord_joined plain.1 listed (Ne.symm first)]
    exact bind_congr fun after => ih rest plain.2 after

end Draft

/-! ### Options with names -/

namespace Valued

/-- The option's name behind two dashes. -/
def name : Valued → String
  | apps => "apps"
  | languages => "lang"
  | output => "output"

/-- The option's letter behind one dash. -/
def letter : Valued → Char
  | apps => 'a'
  | languages => 'l'
  | output => 'o'

def longFlag (option : Valued) : String := "--" ++ option.name

def letterFlag (option : Valued) : String := "-" ++ String.singleton option.letter

variable (option : Valued)

theorem lookup_name : longNames.lookup option.name = some (.valued option) := by
  cases option <;> decide +kernel

theorem lookup_letter : letters.lookup option.letter = some (.valued option) := by
  cases option <;> rfl

theorem name_spelled : option.name.toList ≠ [] ∧ '=' ∉ option.name.toList := by
  cases option <;> decide

theorem letter_ne_dash : option.letter ≠ '-' := by
  cases option <;> decide

end Valued

/-- The words give the option these names: words behind a flag, or what is behind a flag in the same word. In one
word there may be several names, with commas between them. -/
inductive Gives (option : Valued) : List String → List String → Prop
  | apart {flag : String} {chunks : List (List String)} (hf : flag = option.longFlag ∨ flag = option.letterFlag)
    (some_word : chunks ≠ []) (some_name : [] ∉ chunks) :
    Gives option chunks.flatten (flag :: chunks.map (sepBy ","))
  | attached {flag : String} {names : List String} (hf : flag = option.longFlag ∨ flag = option.letterFlag)
    (some_name : names ≠ []) : Gives option names [flag ++ "=" ++ sepBy "," names]
  | joined {names : List String} (some_name : names ≠ []) (marked : (sepBy "," names).toList.head? ≠ some '=') :
    Gives option names [option.letterFlag ++ sepBy "," names]

namespace Scan

section Flag
variable {scan : Scan} {option : Valued}

theorem long_name (word : String) : scan.long word option.name.toList = scan.startOption option none := by
  have whole : option.name.toList.takeWhile (· != '=') = option.name.toList :=
    List.takeWhile_eq_self_iff.mpr fun c hc => bne_iff_ne.mpr fun same => option.name_spelled.2 (same ▸ hc)
  simp only [long, whole, String.ofList_toList, option.lookup_name, Nat.lt_irrefl, if_false]

theorem long_value (word : String) (value : String) :
    scan.long word (option.name.toList ++ '=' :: value.toList) = scan.startOption option (some value) := by
  have front := takeWhile_of_not_mem option.name_spelled.2 value.toList
  simp [long, front, option.lookup_name]

variable (opened : scan.closed = false)
include opened

theorem next_flag {flag : String} (hf : flag = option.longFlag ∨ flag = option.letterFlag) :
    scan.next flag = scan.startOption option none := by
  rcases hf with rfl | rfl
  · rw [next_long opened option.name_spelled.1 (by simp [Valued.longFlag]), long_name]
  · have spelled : option.letterFlag.toList = ['-', option.letter] := by simp [Valued.letterFlag]
    rw [next_short opened option.letter_ne_dash spelled]
    simp [short, option.lookup_letter, attachedTo]

theorem next_attached {flag : String} (hf : flag = option.longFlag ∨ flag = option.letterFlag) (value : String) :
    scan.next (flag ++ "=" ++ value) = scan.startOption option (some value) := by
  rcases hf with rfl | rfl
  · have spelled : (option.longFlag ++ "=" ++ value).toList =
        '-' :: '-' :: (option.name.toList ++ '=' :: value.toList) := by simp [Valued.longFlag]
    rw [next_long opened (by simp) spelled, long_value]
  · have spelled : (option.letterFlag ++ "=" ++ value).toList = '-' :: option.letter :: '=' :: value.toList := by
      simp [Valued.letterFlag]
    rw [next_short opened option.letter_ne_dash spelled]
    simp [short, option.lookup_letter, attachedTo]

theorem next_joined {value : String} (named : value ≠ "") (marked : value.toList.head? ≠ some '=') :
    scan.next (option.letterFlag ++ value) = scan.startOption option (some value) := by
  have spelled : (option.letterFlag ++ value).toList = '-' :: option.letter :: value.toList := by
    simp [Valued.letterFlag]
  have behind : attachedTo value.toList = some value := by
    unfold attachedTo
    split
    · next empty => exact absurd (String.toList_eq_nil_iff.mp empty) named
    · next equals => simp [equals] at marked
    · rw [String.ofList_toList]
  rw [next_short opened option.letter_ne_dash spelled]
  simp only [short, option.lookup_letter, behind]

end Flag

/-! ### Options as words -/

/-- Words that are no flags are the values of the option that is pending. -/
theorem finish_values {option : Valued} (listed : option ≠ .output) {words : List String}
    (plain : ∀ word ∈ words, word.toList.head? ≠ some '-') (draft : Draft) (before rest : List String) :
    finish { draft, pending := .values option before } (words ++ rest) =
      finish { draft, pending := .values option (before ++ words) } rest := by
  induction words generalizing before with
  | nil => simp
  | cons word words ih =>
    obtain ⟨first, later⟩ := List.forall_mem_cons.mp plain
    have takes : Pending.isOpen (.values option before) = true := by
      cases option with
      | output => exact absurd rfl listed
      | _ => rfl
    have next : next { draft, pending := .values option before } word =
        .ok { draft, pending := .values option (before ++ [word]) } := by
      rw [next_plain rfl first, Scan.plain]
      simp [takes]
    rw [List.cons_append, finish, next]
    show finish { draft, pending := .values option (before ++ [word]) } (words ++ rest) = _
    rw [ih later, List.append_assoc]
    rfl

end Scan

/-- A word with names does not look like a flag either. -/
theorem head_sepBy {names : List String} (some_name : names ≠ []) (named : ∀ name ∈ names, IsName name) :
    sepBy "," names ≠ "" ∧ (sepBy "," names).toList.head? ≠ some '-' := by
  obtain ⟨name, rest, rfl⟩ := List.exists_cons_of_ne_nil some_name
  obtain ⟨there, -, undashed⟩ := named name (List.mem_cons_self ..)
  have starts : ∃ tail, (sepBy "," (name :: rest)).toList = name.toList ++ tail := by
    cases rest with
    | nil => exact ⟨[], by simp⟩
    | cons next rest => exact ⟨_, by rw [sepBy_cons_cons, String.append_assoc, String.toList_append]⟩
  obtain ⟨tail, starts⟩ := starts
  obtain ⟨c, cs, spelled⟩ := List.exists_cons_of_ne_nil (mt String.toList_eq_nil_iff.mp there)
  rw [spelled] at starts undashed
  refine ⟨fun empty => ?_, ?_⟩
  · simp [empty] at starts
  · rw [starts]
    exact undashed

namespace Scan

theorem settles_values {option : Valued} {draft after : Draft} {words : List String} (some_word : words ≠ [])
    (taken : draft.take option words = .ok after) :
    Settles { draft, pending := .values option words } after := by
  obtain ⟨word, words, rfl⟩ := List.exists_cons_of_ne_nil some_word
  refine ⟨rfl, ?_, ?_⟩
  · show (draft.take option (word :: words)).map (fun after => ({ draft := after } : Scan)) = _
    rw [taken]
    rfl
  · rw [Draft.manifest_of_take taken]
    exact Bool.or_false _

section Gives
variable {option : Valued} (listed : option ≠ .output) {scan : Scan} {draft after : Draft}
include listed

theorem startOption_value {names : List String} (h : scan.Settles draft) (some_name : names ≠ [])
    (plain : ∀ name ∈ names, ',' ∉ name.toList) (taken : draft.take option names = .ok after) :
    scan.startOption option (some (sepBy "," names)) = .ok { draft := after } := by
  have one : draft.take option [sepBy "," names] = .ok after := by
    rw [Draft.take_cons, Draft.takeWord_joined plain listed some_name, taken]
    rfl
  rw [startOption_of_settles h]
  show (draft.take option [sepBy "," names] >>= fun after => (.ok { draft := after } : Except _ Scan)) = _
  rw [one]
  rfl

/-- Once a flag comes, the names are settled, however the option gives them. -/
theorem finish_of_gives {names words rest : List String} (h : scan.Settles draft)
    (given : Gives option names words) (named : ∀ name ∈ names, IsName name)
    (taken : draft.take option names = .ok after) (flagged : Flagged rest) :
    finish scan (words ++ rest) = finish { draft := after } rest := by
  have plain : ∀ name ∈ names, ',' ∉ name.toList := fun name hn => (named name hn).2.1
  cases given with
  | @apart flag chunks hf some_word some_name =>
    have undashed : ∀ word ∈ chunks.map (sepBy ","), word.toList.head? ≠ some '-' := by
      intro word hw
      obtain ⟨chunk, hc, rfl⟩ := List.mem_map.mp hw
      have there : chunk ≠ [] := fun empty => some_name (empty ▸ hc)
      exact (head_sepBy there fun name hn => named name (List.mem_flatten.mpr ⟨chunk, hc, hn⟩)).2
    have start : scan.next flag = .ok { draft, pending := .values option [] } := by
      rw [next_flag h.opened hf, startOption_of_settles h]
      rfl
    have settles : Settles { draft, pending := .values option (chunks.map (sepBy ",")) } after :=
      settles_values (mt List.map_eq_nil_iff.mp some_word)
        ((Draft.take_joined listed some_name plain draft).trans taken)
    rw [List.cons_append, finish, start]
    show finish { draft, pending := .values option [] } (chunks.map (sepBy ",") ++ rest) = _
    rw [finish_values listed undashed, List.nil_append]
    exact finish_of_settles settles flagged
  | @attached flag _ hf some_name =>
    have next : scan.next (flag ++ "=" ++ sepBy "," names) = .ok { draft := after } := by
      rw [next_attached h.opened hf]
      exact startOption_value listed h some_name plain taken
    rw [List.singleton_append, finish, next]
    rfl
  | joined some_name marked =>
    have next : scan.next (option.letterFlag ++ sepBy "," names) = .ok { draft := after } := by
      rw [next_joined h.opened (head_sepBy some_name named).1 marked]
      exact startOption_value listed h some_name plain taken
    rw [List.singleton_append, finish, next]
    rfl

end Gives

end Scan

/-! ### Apps and languages -/

/-- The words give these names for apps and for languages, by options in any order. -/
inductive Spelled : List String → List String → List String → Prop
  | nothing : Spelled [] [] []
  | apps {names apps languages words rest : List String} (given : Gives .apps names words)
    (more : Spelled apps languages rest) : Spelled (names ++ apps) languages (words ++ rest)
  | languages {names apps languages words rest : List String} (given : Gives .languages names words)
    (more : Spelled apps languages rest) : Spelled apps (names ++ languages) (words ++ rest)

theorem isFlag_append {flag : String} (h : isFlag flag = true) (s : String) : isFlag (flag ++ s) = true := by
  unfold isFlag at *
  split at h
  · next spelled => simp [spelled]
  · exact nomatch h

theorem isFlag_of_valued {option : Valued} {flag : String}
    (hf : flag = option.longFlag ∨ flag = option.letterFlag) : isFlag flag = true := by
  rcases hf with rfl | rfl <;> cases option <;> decide

theorem flagged_of_gives {option : Valued} {names words : List String} (given : Gives option names words)
    (rest : List String) : Flagged (words ++ rest) := by
  intro word hw
  cases given with
  | apart hf => exact Option.some.inj hw ▸ isFlag_of_valued hf
  | attached hf =>
    rw [String.append_assoc] at hw
    exact Option.some.inj hw ▸ isFlag_append (isFlag_of_valued hf) _
  | joined => exact Option.some.inj hw ▸ isFlag_append (isFlag_of_valued (.inr rfl)) _

theorem flagged_of_spelled {apps languages words rest : List String} (spelled : Spelled apps languages words)
    (flagged : Flagged rest) : Flagged (words ++ rest) := by
  cases spelled with
  | nothing => exact flagged
  | apps given | languages given =>
    rw [List.append_assoc]
    exact flagged_of_gives given _

/-- Options for apps and languages are settled to all their names, each kind in its order. -/
theorem Scan.finish_of_spelled {scan : Scan} {draft : Draft} {apps languages words rest : List String}
    {dialects : List Dialect} (h : scan.Settles draft) (spelled : Spelled apps languages words)
    (named : ∀ name ∈ apps, IsName name) (known : languages.mapM Draft.language = .ok dialects)
    (flagged : Flagged rest) :
    finish scan (words ++ rest) =
      finish { draft := { draft with apps := draft.apps ++ apps, languages := draft.languages ++ dialects } }
        rest := by
  induction spelled generalizing scan draft dialects with
  | nothing =>
    cases known
    rw [List.nil_append, finish_of_settles h flagged]
    simp
  | @apps names apps languages words more given spelled ih =>
    obtain ⟨first, later⟩ := List.forall_mem_append.mp named
    have taken := Draft.take_apps (fun name hn => (first name hn).2.1) draft
    rw [List.append_assoc,
      finish_of_gives (by decide) h given first taken (flagged_of_spelled spelled flagged),
      ih (settles_draft _) later known]
    simp
  | @languages names apps languages words more given spelled ih =>
    rw [List.mapM_append] at known
    obtain ⟨first, hf, known⟩ := bind_eq_ok_iff.mp known
    obtain ⟨later, hl, known⟩ := bind_eq_ok_iff.mp known
    obtain rfl : first ++ later = dialects := Except.ok.inj known
    have plain : ∀ name ∈ names, IsName name := fun name hn =>
      have ⟨_, taken⟩ := exists_mapM_eq_ok_iff.mp ⟨first, hf⟩ name hn
      isName_of_language taken
    have taken := Draft.take_languages (fun name hn => (plain name hn).2.1) draft
    rw [hf] at taken
    rw [List.append_assoc,
      finish_of_gives (by decide) h given plain taken (flagged_of_spelled spelled flagged),
      ih (settles_draft _) named hl]
    simp

/-! ### Command lines -/

/-- A word that is taken for the manifest: it is there, and it is no flag. -/
def IsManifest (word : String) : Prop := word ≠ "" ∧ isFlag word = false

instance (word : String) : Decidable (IsManifest word) := by unfold IsManifest; infer_instance

namespace Scan

theorem next_manifest {word : String} (h : IsManifest word) :
    next {} word = .ok { pending := .manifest word } := by
  have unflagged := h.2
  unfold isFlag at unflagged
  simp only [next, Bool.false_eq_true, if_false]
  split
  · next spelled => simp [spelled] at unflagged
  · next spelled => simp_all
  · rfl
  · next rest _ _ single spelled =>
    cases rest with
    | nil => exact absurd rfl single
    | cons c rest => simp [spelled] at unflagged
  · rfl

theorem settles_manifest {word : String} (h : IsManifest word) :
    Settles { pending := .manifest word } { manifest := some word } := by
  refine ⟨rfl, ?_, rfl⟩
  have there : word.isEmpty = false := by simpa using h.1
  simp [settle, Draft.takeManifest, there, Except.map]

end Scan

/-- **All spellings of options with names are parsed alike.** Behind the manifest, let options bring names for apps
and for languages, each option in words behind it or in its own word, in one word some names or one. Whatever the
grouping, the arguments have all the apps and all the languages in order, and flags that follow are read as if they
were settled. -/
theorem spellings_parsed_alike {manifest : String} {apps languages words : List String} {dialects : List Dialect}
    (first : IsManifest manifest) (some_app : apps ≠ []) (named : ∀ name ∈ apps, IsName name)
    (known : languages.mapM Draft.language = .ok dialects) (spelled : Spelled apps languages words) :
    Arguments.parse (manifest :: words) = .ok { manifest, apps, languages := dialects } ∧
      ∀ rest, Flagged rest →
        Arguments.parse (manifest :: words ++ rest) =
          Scan.finish { draft := { manifest := some manifest, apps, languages := dialects } } rest := by
  have behind (rest : List String) (flagged : Flagged rest) :
      Arguments.parse (manifest :: words ++ rest) =
        Scan.finish { draft := { manifest := some manifest, apps, languages := dialects } } rest := by
    rw [Arguments.parse, List.cons_append, Scan.finish, Scan.next_manifest first]
    show Scan.finish { pending := .manifest manifest } (words ++ rest) = _
    rw [Scan.finish_of_spelled (Scan.settles_manifest first) spelled named known flagged]
    simp
  refine ⟨?_, behind⟩
  have whole := behind [] nofun
  rw [List.append_nil] at whole
  obtain ⟨app, apps, rfl⟩ := List.exists_cons_of_ne_nil some_app
  exact whole

/-- Words behind a flag, some of them with several names, and names in the word of a flag; a switch follows. -/
theorem spellings_parsed_alike_mixed :
    Arguments.parse ["m.yaml", "--apps", "blog", "shop,forum", "-l", "kt", "-awiki", "--lang=go,jpa", "-a", "blog",
        "--no-orm"] =
      .ok
        { manifest := "m.yaml"
          apps := ["blog", "shop", "forum", "wiki", "blog"]
          languages := [.kotlin, .go, .kotlin]
          withoutStorage := true } := by
  have apart : Gives .apps ["blog", "shop", "forum"] ["--apps", "blog", "shop,forum"] :=
    @Gives.apart .apps "--apps" [["blog"], ["shop", "forum"]] (by decide) (by decide) (by decide)
  have kotlin : Gives .languages ["kt"] ["-l", "kt"] :=
    @Gives.apart .languages "-l" [["kt"]] (by decide) (by decide) (by decide)
  have joined : Gives .apps ["wiki"] ["-awiki"] := @Gives.joined .apps ["wiki"] (by decide) (by decide)
  have attached : Gives .languages ["go", "jpa"] ["--lang=go,jpa"] :=
    @Gives.attached .languages "--lang" ["go", "jpa"] (by decide) (by decide)
  have again : Gives .apps ["blog"] ["-a", "blog"] :=
    @Gives.apart .apps "-a" [["blog"]] (by decide) (by decide) (by decide)
  have spelled := Spelled.apps apart (.languages kotlin (.apps joined (.languages attached (.apps again .nothing))))
  have flagged : Flagged ["--no-orm"] := fun word hw => Option.some.inj hw ▸ by decide
  have parsed := (spellings_parsed_alike (by decide : IsManifest "m.yaml") (by decide) (by decide) rfl spelled).2
    ["--no-orm"] flagged
  exact parsed

end EntityGen.Command
