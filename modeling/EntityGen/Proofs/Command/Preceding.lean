import EntityGen.Proofs.Command.Spelling

/-!
Languages in front of a command line. They are put before all others that the line asks for, and change nothing
else about how it is read (`Scan.finish_precede`): neither what is settled when, nor which mistake is met first. -/
namespace EntityGen.Command

/-! ### Arguments with languages in front -/

def Arguments.precede (dialects : List Dialect) (a : Arguments) : Arguments :=
  { a with languages := dialects ++ a.languages }

def Draft.precede (dialects : List Dialect) (draft : Draft) : Draft :=
  { draft with languages := dialects ++ draft.languages }

def Scan.precede (dialects : List Dialect) (scan : Scan) : Scan :=
  { scan with draft := scan.draft.precede dialects }

variable (dialects : List Dialect)

namespace Draft
variable (draft : Draft)

theorem takeWord_precede (option : Valued) (word : String) :
    takeWord option (draft.precede dialects) word = (takeWord option draft word).map (precede dialects) := by
  cases option with
  | apps => rfl
  | languages =>
    simp only [takeWord]
    cases (values word).mapM language <;> simp [Except.map, precede]
  | output =>
    rw [takeWord, takeWord, apply_ite (Except.map _), apply_ite (Except.map _)]
    rfl

theorem take_precede (option : Valued) (words : List String) :
    take option (draft.precede dialects) words = (take option draft words).map (precede dialects) := by
  induction words generalizing draft with
  | nil => rfl
  | cons word words ih =>
    rw [take_cons, take_cons, takeWord_precede]
    cases takeWord option draft word with
    | error error => rfl
    | ok after => exact ih after

theorem throwSwitch_precede (switch : Switch) :
    (draft.precede dialects).throwSwitch switch = (draft.throwSwitch switch).map (precede dialects) := by
  cases switch with
  | withoutStorage | withoutValidation | verbose =>
    rw [throwSwitch, throwSwitch, apply_ite (Except.map _)]
    rfl
  | help | version => rfl

theorem finish_precede : (draft.precede dialects).finish = draft.finish.map (Arguments.precede dialects) := by
  unfold finish
  have manifest : (draft.precede dialects).manifest = draft.manifest := rfl
  rw [manifest]
  cases draft.manifest with
  | none => rfl
  | some manifest =>
    rw [apply_ite (Except.map _)]
    rfl

end Draft

namespace Scan
variable (scan : Scan)

theorem settle_precede : (scan.precede dialects).settle = scan.settle.map (precede dialects) := by
  obtain ⟨draft, pending, closed⟩ := scan
  cases pending with
  | nothing => rfl
  | manifest word =>
    simp only [settle, precede, Draft.takeManifest]
    split <;> rfl
  | values option words =>
    cases words with
    | nil => rfl
    | cons word words =>
      simp only [settle, precede, Draft.take_precede]
      cases draft.take option (word :: words) <;> rfl

theorem throwSwitch_precede (switch : Switch) :
    (scan.precede dialects).throwSwitch switch = (scan.throwSwitch switch).map (precede dialects) := by
  rw [throwSwitch, settle_precede, throwSwitch]
  cases scan.settle with
  | error error => rfl
  | ok settled =>
    show ((settled.draft.precede dialects).throwSwitch switch >>= _) = _
    rw [Draft.throwSwitch_precede]
    cases h : settled.draft.throwSwitch switch <;> simp [h, bind, Except.bind, Except.map, precede, pure, Except.pure]

theorem startOption_precede (option : Valued) (attached : Option String) :
    (scan.precede dialects).startOption option attached =
      (scan.startOption option attached).map (precede dialects) := by
  rw [startOption, settle_precede, startOption]
  cases scan.settle with
  | error error => rfl
  | ok settled =>
    cases attached with
    | none => rfl
    | some word =>
      show ((settled.draft.precede dialects).take option [word] >>= _) = _
      rw [Draft.take_precede]
      cases h : settled.draft.take option [word] <;>
        simp [h, bind, Except.bind, Except.map, precede, pure, Except.pure]

theorem positional_precede (word : String) :
    (scan.precede dialects).positional word = (scan.positional word).map (precede dialects) := by
  have manifest : (scan.precede dialects).hasManifest = scan.hasManifest := rfl
  rw [positional, positional, manifest, settle_precede]
  split
  · rfl
  · cases scan.settle <;> rfl

theorem plain_precede (word : String) :
    (scan.precede dialects).plain word = (scan.plain word).map (precede dialects) := by
  obtain ⟨draft, pending, closed⟩ := scan
  cases pending with
  | nothing | manifest => exact positional_precede dialects _ word
  | values option words =>
    show (if Pending.isOpen (.values option words) then _ else _) = Except.map _ (if _ then _ else _)
    rw [apply_ite (Except.map _), ← positional_precede]
    rfl

theorem long_precede (word : String) (rest : List Char) :
    (scan.precede dialects).long word rest = (scan.long word rest).map (precede dialects) := by
  simp only [long]
  generalize (if (rest.takeWhile (· != '=')).length < rest.length then
    some (String.ofList (rest.drop ((rest.takeWhile (· != '=')).length + 1))) else none) = attached
  generalize longNames.lookup (String.ofList (rest.takeWhile (· != '='))) = flag
  cases flag with
  | none => rfl
  | some flag =>
    cases flag with
    | valued option => exact startOption_precede dialects scan option attached
    | switch switch =>
      cases attached with
      | none => exact throwSwitch_precede dialects scan switch
      | some value => rfl

theorem short_precede (word : String) (rest : List Char) :
    short word (scan.precede dialects) rest = (short word scan rest).map (precede dialects) := by
  induction rest generalizing scan with
  | nil => rfl
  | cons letter rest ih =>
    unfold short
    cases letters.lookup letter with
    | none => rfl
    | some flag =>
      cases flag with
      | valued option => exact startOption_precede dialects scan option (attachedTo rest)
      | switch switch =>
        show ((scan.precede dialects).throwSwitch switch >>= fun next => short word next rest) =
          (scan.throwSwitch switch >>= fun next => short word next rest).map (precede dialects)
        rw [throwSwitch_precede]
        cases scan.throwSwitch switch with
        | error error => rfl
        | ok next => exact ih next

theorem next_precede (word : String) :
    (scan.precede dialects).next word = (scan.next word).map (precede dialects) := by
  unfold next
  have closed : (scan.precede dialects).closed = scan.closed := rfl
  rw [closed, apply_ite (Except.map _), positional_precede]
  congr 1
  split
  · rfl
  · exact long_precede dialects scan word _
  · exact plain_precede dialects scan word
  · exact short_precede dialects scan word _
  · exact plain_precede dialects scan word

theorem finish_precede (words : List String) :
    (scan.precede dialects).finish words = (scan.finish words).map (Arguments.precede dialects) := by
  induction words generalizing scan with
  | nil =>
    rw [finish, finish, settle_precede]
    cases scan.settle with
    | error error => rfl
    | ok settled => exact settled.draft.finish_precede dialects
  | cons word words ih =>
    rw [finish, finish, next_precede]
    cases scan.next word with
    | error error => rfl
    | ok next => exact ih next

end Scan

/-- A first word with languages: they have to be known, and then what the other words ask for stands behind them. -/
theorem parse_languages_first (text : String) (words : List String) :
    Arguments.parse (("--lang=" ++ text) :: words) =
      (Draft.values text).mapM Draft.language >>= fun dialects =>
        (Arguments.parse words).map (Arguments.precede dialects) := by
  have next : Scan.next {} ("--lang=" ++ text) =
      ((Draft.values text).mapM Draft.language).map fun dialects => Scan.precede dialects {} := by
    have flag : "--lang=" = Valued.languages.longFlag ++ "=" := by decide
    rw [flag, Scan.next_attached rfl (.inl rfl)]
    show (Draft.take .languages {} [text] >>= fun draft => (.ok { draft } : Except _ Scan)) = _
    rw [Draft.take_cons, Draft.takeWord]
    cases (Draft.values text).mapM Draft.language with
    | error error => rfl
    | ok dialects => simp [Except.map, bind, Except.bind, Draft.take, Scan.precede, Draft.precede, pure, Except.pure]
  rw [Arguments.parse, Scan.finish, next]
  cases (Draft.values text).mapM Draft.language with
  | error error => rfl
  | ok dialects => exact Scan.finish_precede dialects {} words

end EntityGen.Command
