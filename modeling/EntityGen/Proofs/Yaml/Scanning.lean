import EntityGen.Proofs.Yaml.Scalars
import EntityGen.Yaml.Tokens

/-!
Scanning flow collections. A scanner that stands in no block and has no required key in mind (`Free`) stays so while it
passes flow collections, one token after the other (`Passes`). Pieces of text that are always the same tokens there
(`Scans`) are put together: scalars are pieces, and so are pieces with commas between them, keys with their values, and
what is between brackets. A mapping that is the whole text is scanned to the end (`tokens_mapping`). -/
namespace EntityGen.Yaml.Scanner
open Text (isBasic IsBasic)

theorem inFlow_eq {s s' : Scanner} (h : s'.outerKeys = s.outerKeys) : s'.inFlow = s.inFlow := by
  rw [inFlow, inFlow, h]

/-! ### Free scanners -/

/-- Outside all blocks, and with no key in mind that is required. -/
structure Free (s : Scanner) : Prop where
  indent : s.indent = -1
  outerIndents : s.outerIndents = []
  key : ∀ k ∈ s.key, k.required = false
  outerKeys : ∀ inMind ∈ s.outerKeys, ∀ k ∈ inMind, k.required = false

namespace Free
variable {s : Scanner} (free : s.Free)
include free

theorem keepsKeys : s.keepsKeys = true := by
  have outermost : ∀ k ∈ s.outermostKey, k.required = false := by
    unfold outermostKey
    cases last : s.outerKeys.getLast? with
    | none => exact free.key
    | some inMind => exact free.outerKeys inMind (List.mem_of_getLast? last)
  unfold Scanner.keepsKeys
  cases held : s.outermostKey with
  | none => rfl
  | some k => simp [outermost k held]

theorem closeBlocks_eq {column : Int} (h : -1 ≤ column) : s.closeBlocks column = s := by
  have outside : ¬ column < s.indent := by
    rw [free.indent]
    omega
  unfold closeBlocks
  split
  · rfl
  · rw [free.outerIndents, unroll, if_neg outside]

theorem forget?_eq : s.forget? = some { s with key := none } := by
  unfold forget?
  split
  · next k held => rw [if_neg (by simp [free.key k held])]
  · next nothing => rw [← nothing]

/-- A key that is kept in mind is not required. -/
theorem remember?_eq : ∃ inMind, s.remember? = some { s with key := inMind } ∧ (∀ k ∈ inMind, k.required = false) ∧
    (s.keyAllowed = true →
      inMind = some ⟨false, s.tokens.length, s.cursor.index, s.cursor.line, s.cursor.column⟩) := by
  unfold remember?
  by_cases allowed : s.keyAllowed = true
  · have outside : decide (s.indent = s.cursor.column) = false := by
      rw [free.indent, decide_eq_false_iff_not]
      omega
    rw [if_pos allowed, free.forget?_eq]
    refine ⟨_, ?_, ?_, fun _ => rfl⟩
    · simp only [Option.map_some, outside, Bool.and_false]
    · rintro _ ⟨⟩
      rfl
  · rw [if_neg allowed]
    exact ⟨s.key, rfl, free.key, fun yes => absurd yes allowed⟩

end Free

/-- A gap is not skipped where none is. -/
theorem skipGap_of_solid {s : Scanner} {c : Char} {cs : List Char} {fuel : Nat} (h : s.cursor.rest = c :: cs)
    (solid : isGap c = false) (noComment : c ≠ '#') (noMark : c ≠ '\ufeff') : s.skipGap (fuel + 1) = s := by
  have apart : isSpace c = false := (Bool.or_eq_false_iff.mp solid).1
  have noBlank : c ≠ ' ' := by
    rintro rfl
    exact absurd apart (by decide)
  have noTab : c ≠ '\t' := by
    rintro rfl
    exact absurd apart (by decide)
  simp [skipGap, Cursor.skipWhile, h, noMark, noBlank, noTab, noComment, Cursor.readBreak?_of_solid h solid]

/-- A token is taken where one starts. -/
theorem Free.run_succ {s : Scanner} (free : s.Free) {c : Char} {cs : List Char} (h : s.cursor.rest = c :: cs)
    (solid : isGap c = false) (noComment : c ≠ '#') (noMark : c ≠ '\ufeff') (fuel : Nat) :
    s.run (fuel + 1) = (s.token c cs).bind (·.run fuel) := by
  simp only [run, free.keepsKeys, skipGap_of_solid h solid noComment noMark,
    free.closeBlocks_eq (show -1 ≤ (s.cursor.column : Int) by omega)]
  rw [h]
  rfl

/-- The text ends here. -/
theorem Free.run_end {s : Scanner} (free : s.Free) (h : s.cursor.rest = []) (fuel : Nat) :
    s.run (fuel + 1) = some (s.tokens.reverse ++ [.streamEnd]) := by
  have still : s.skipGap (s.cursor.rest.length + 1) = s := by
    simp [skipGap, Cursor.skipWhile, h, Cursor.readBreak?]
  simp only [run, free.keepsKeys, still, free.closeBlocks_eq (show -1 ≤ (s.cursor.column : Int) by omega)]
  rw [h]
  simp [finish, free.closeBlocks_eq (Int.le_refl _), free.forget?_eq, emit]

/-! ### Steps -/

/-- The scanner takes these tokens from this text and is then at `s'`. Each step of it takes a character at least. -/
structure Passes (s : Scanner) (cs : List Char) (tokens : List Token) (s' : Scanner) : Prop where
  cursor : s'.cursor = s.cursor.advance cs.length
  tokens : s'.tokens = tokens.reverse ++ s.tokens
  run : ∃ n ≤ cs.length, ∀ fuel, s.run (n + fuel) = s'.run fuel

namespace Passes
variable {s s' s'' : Scanner} {cs ds : List Char} {tokens more : List Token}

theorem refl (s : Scanner) : s.Passes [] [] s := ⟨rfl, rfl, 0, Nat.le_refl 0, fun fuel => by rw [Nat.zero_add]⟩

theorem trans (first : s.Passes cs tokens s') (later : s'.Passes ds more s'') :
    s.Passes (cs ++ ds) (tokens ++ more) s'' := by
  obtain ⟨m, hm, start⟩ := first.run
  obtain ⟨n, hn, rest⟩ := later.run
  refine ⟨?_, ?_, m + n, ?_, fun fuel => ?_⟩
  · rw [later.cursor, first.cursor, Cursor.advance_advance, List.length_append]
  · rw [later.tokens, first.tokens, List.reverse_append, List.append_assoc]
  · rw [List.length_append]
    exact Nat.add_le_add hm hn
  · rw [Nat.add_assoc, start, rest]

theorem rest (passes : s.Passes cs tokens s') (h : s.cursor.rest = cs ++ ds) : s'.cursor.rest = ds := by
  rw [passes.cursor]
  exact Cursor.rest_advance h

/-- One step. -/
theorem of_token {c : Char} {rest : List Char} (free : s.Free) (h : s.cursor.rest = c :: (cs ++ rest))
    (solid : isGap c = false) (noComment : c ≠ '#') (noMark : c ≠ '\ufeff') (taken : s.token c (cs ++ rest) = some s')
    (cursor : s'.cursor = s.cursor.advance (cs.length + 1)) (tokens_eq : s'.tokens = tokens.reverse ++ s.tokens) :
    s.Passes (c :: cs) tokens s' := by
  refine ⟨cursor, tokens_eq, 1, Nat.succ_le_succ (Nat.zero_le _), fun fuel => ?_⟩
  rw [Nat.add_comm, free.run_succ h solid noComment noMark, taken]
  rfl

end Passes

/-! ### Marks -/

section
variable {s : Scanner} {rest : List Char}

theorem token_openSequence (h : s.cursor.rest = '[' :: rest) : s.token '[' rest = s.openFlow .flowSequenceStart := by
  simp [token, Cursor.atMarker, h]

theorem token_closeSequence (h : s.cursor.rest = ']' :: rest) : s.token ']' rest = s.closeFlow .flowSequenceEnd := by
  simp [token, Cursor.atMarker, h]

theorem token_openMapping (h : s.cursor.rest = '\x7b' :: rest) :
    s.token '\x7b' rest = s.openFlow .flowMappingStart := by
  simp [token, Cursor.atMarker, h]

theorem token_closeMapping (h : s.cursor.rest = '\x7d' :: rest) :
    s.token '\x7d' rest = s.closeFlow .flowMappingEnd := by
  simp [token, Cursor.atMarker, h]

theorem token_comma (h : s.cursor.rest = ',' :: rest) : s.token ',' rest = s.flowEntry := by
  simp [token, Cursor.atMarker, h]

theorem token_colon (inFlow : s.inFlow = true) (h : s.cursor.rest = ':' :: rest) :
    s.token ':' rest = s.valueMark := by
  simp [token, Cursor.atMarker, h, inFlow]

theorem token_quote (h : s.cursor.rest = '"' :: rest) : s.token '"' rest =
    s.part fun k => (quoted '"' k).map fun (text, k) => (.scalar .quoted (String.ofList text), k) := by
  simp [token, Cursor.atMarker, h]

theorem token_alphanumeric {c : Char} (alphanumeric : c.isAlphanum = true) (h : s.cursor.rest = c :: rest) :
    s.token c rest = s.plainScalar := by
  simp (disch := decide) [token, Cursor.atMarker, h, isIndicator, isFlowMark, ne_of_isAlphanum alphanumeric]

end

/-- A mark of flow collections is no gap and starts no comment. -/
theorem Passes.of_mark {s s' : Scanner} {m : Char} {rest : List Char} {token : Token} (free : s.Free)
    (mark : isFlowMark m = true) (h : s.cursor.rest = m :: rest) (taken : s.token m rest = some s')
    (cursor : s'.cursor = s.cursor.advance 1) (tokens : s'.tokens = token :: s.tokens) :
    s.Passes [m] [token] s' := by
  have noComment : m ≠ '#' := by
    rintro rfl
    exact absurd mark (by decide)
  have noMark : m ≠ '\ufeff' := by
    rintro rfl
    exact absurd mark (by decide)
  exact .of_token free h (isGap_of_isFlowMark mark) noComment noMark taken cursor tokens

/-- A free scanner passes a comma. A key may stand behind it. -/
theorem Free.passes_comma {s : Scanner} {rest : List Char} (free : s.Free) (h : s.cursor.rest = ',' :: rest) :
    ∃ s', s'.Free ∧ s'.outerKeys = s.outerKeys ∧ s'.keyAllowed = true ∧ s.Passes [','] [.flowEntry] s' := by
  have taken : s.token ',' rest = some ((({ s with key := none }).mark .flowEntry 1).allow true) := by
    rw [token_comma h, flowEntry, free.forget?_eq]
    rfl
  refine ⟨_, ?_, ?_, ?_, .of_mark free (by decide) h taken rfl rfl⟩
  · exact ⟨free.indent, free.outerIndents, nofun, free.outerKeys⟩
  · rfl
  · rfl

section
variable {s : Scanner} {m : Char} {token : Token} {rest : List Char} (free : s.Free) (mark : isFlowMark m = true)
  (h : s.cursor.rest = m :: rest)
include free mark h

/-- An opening bracket. What is in mind before it is kept for behind the closing one. -/
theorem Free.passes_open (opens : s.token m rest = s.openFlow token) :
    ∃ s' inMind, s'.Free ∧ s'.outerKeys = inMind :: s.outerKeys ∧ s'.keyAllowed = true ∧ s.Passes [m] [token] s' := by
  obtain ⟨inMind, remembered, notRequired, -⟩ := free.remember?_eq
  have taken : s.token m rest = some
      { ({ s with key := inMind }.mark token 1).allow true with key := none, outerKeys := inMind :: s.outerKeys } := by
    rw [opens, openFlow, remembered]
    rfl
  refine ⟨_, inMind, ?_, rfl, rfl, .of_mark free mark h taken rfl rfl⟩
  exact ⟨free.indent, free.outerIndents, nofun, List.forall_mem_cons.mpr ⟨notRequired, free.outerKeys⟩⟩

/-- A closing bracket. -/
theorem Free.passes_close {inMind : Option SimpleKey} {outer : List (Option SimpleKey)}
    (within : s.outerKeys = inMind :: outer) (closes : s.token m rest = s.closeFlow token) :
    ∃ s', s'.Free ∧ s'.outerKeys = outer ∧ s.Passes [m] [token] s' := by
  have taken : s.token m rest = some (({ s with key := inMind, outerKeys := outer }.mark token 1).allow false) := by
    rw [closes, closeFlow, free.forget?_eq]
    simp only [Option.bind_eq_bind, Option.bind_some, within]
    rfl
  have outside := free.outerKeys
  rw [within] at outside
  obtain ⟨notRequired, outside⟩ := List.forall_mem_cons.mp outside
  refine ⟨_, ?_, ?_, .of_mark free mark h taken rfl rfl⟩
  · exact ⟨free.indent, free.outerIndents, notRequired, outside⟩
  · rfl

end

/-! ### Pieces of flow collections -/

/-- In flow collections, before a mark, this text is these tokens. If it is `keyed` then a key has to be allowed before
it. -/
structure Scans (keyed : Bool) (cs : List Char) (tokens : List Token) : Prop where
  basic : ∀ c ∈ cs, isBasic c = true
  passes : ∀ {s : Scanner} {m : Char} {rest : List Char}, s.Free → s.inFlow = true →
    (keyed = true → s.keyAllowed = true) → isFlowMark m = true → s.cursor.rest = cs ++ m :: rest →
      ∃ s', s'.Free ∧ s'.outerKeys = s.outerKeys ∧ s.Passes cs tokens s'

/-- The scanner after a scalar of so many characters, with what it then has in mind. -/
def behind (s : Scanner) (token : Token) (count : Nat) (inMind : Option SimpleKey) : Scanner :=
  { s with
    cursor := s.cursor.advance count
    tokens := token :: s.tokens
    key := inMind
    keyAllowed := false }

theorem Free.behind {s : Scanner} (free : s.Free) {inMind : Option SimpleKey}
    (notRequired : ∀ k ∈ inMind, k.required = false) (token : Token) (count : Nat) :
    (s.behind token count inMind).Free :=
  ⟨free.indent, free.outerIndents, notRequired, free.outerKeys⟩

/-- A word of letters and digits is a plain scalar. -/
theorem Free.token_word {s : Scanner} (free : s.Free) (inFlow : s.inFlow = true) {c m : Char} {word rest : List Char}
    (alphanumeric : ∀ d ∈ c :: word, d.isAlphanum = true) (mark : isFlowMark m = true)
    (h : s.cursor.rest = c :: (word ++ m :: rest)) :
    ∃ inMind, (∀ k ∈ inMind, k.required = false) ∧
      s.token c (word ++ m :: rest) =
        some (s.behind (.scalar .plain (String.ofList (c :: word))) (c :: word).length inMind) := by
  have first := alphanumeric c (List.mem_cons_self ..)
  obtain ⟨inMind, remembered, notRequired, -⟩ := free.remember?_eq
  refine ⟨inMind, notRequired, ?_⟩
  have read : plain s.inFlow (s.indent + 1) s.cursor =
      some (c :: word, s.cursor.advance (c :: word).length, false) := by
    rw [inFlow]
    exact plain_word (List.cons_ne_nil _ _) alphanumeric mark h
  rw [token_alphanumeric first h, plainScalar, remembered]
  simp only [Option.bind_eq_bind, Option.bind_some]
  show (plain s.inFlow (s.indent + 1) s.cursor).bind _ = _
  rw [read]
  rfl

/-- A literal is a quoted scalar, and it may be a key where one is allowed. -/
theorem Free.token_literal {s : Scanner} (free : s.Free) {text : String} {rest : List Char}
    (basic : IsBasic text)
    (h : s.cursor.rest = quotation text ++ rest) :
    ∃ inMind, (∀ k ∈ inMind, k.required = false) ∧
      (s.keyAllowed = true →
        inMind = some ⟨false, s.tokens.length, s.cursor.index, s.cursor.line, s.cursor.column⟩) ∧
      s.token '"' (spelled text.toList ++ ['"'] ++ rest) =
        some (s.behind (.scalar .quoted text) (quotation text).length inMind) := by
  obtain ⟨inMind, remembered, notRequired, place⟩ := free.remember?_eq
  refine ⟨inMind, notRequired, place, ?_⟩
  have opened : s.cursor.rest = '"' :: (spelled text.toList ++ ['"'] ++ rest) := by
    rw [h, quotation_eq]
    rfl
  rw [token_quote opened, part, remembered]
  simp only [Option.bind_eq_bind, Option.bind_some, quoted_quotation basic h, Option.map_some, String.ofList_toList]
  rfl

/-- A colon makes a key of the token before it, if that is in mind and near. -/
theorem token_colon_of_key {s : Scanner} {rest : List Char} {key : SimpleKey} {last : Token} {before : List Token}
    (inFlow : s.inFlow = true) (h : s.cursor.rest = ':' :: rest) (held : s.key = some key)
    (tokens : s.tokens = last :: before) (position : key.position = before.length) (line : key.line = s.cursor.line)
    (near : s.cursor.index ≤ key.index + 1024) :
    s.token ':' rest = some
      { s with
        cursor := s.cursor.advance 1
        tokens := .value :: last :: .key :: before
        key := none
        keyAllowed := false } := by
  have fresh : s.isStale key = false := by
    simp [isStale, line, near]
  have later : s.tokens.length - key.position = 1 := by
    rw [tokens, position, List.length_cons]
    omega
  rw [token_colon inFlow h, valueMark, held]
  simp only [Option.filter_some, fresh, Bool.not_false, if_true, insert, later]
  simp only [tokens, List.take_succ_cons, List.take_zero, List.drop_succ_cons, List.drop_zero, List.reverse_singleton,
    openBlock, opensBlock, Scanner.inFlow] at inFlow ⊢
  simp [inFlow, mark, emit]

/-- A literal and a colon. The colon makes a key of the literal, which has to be short. -/
theorem Free.passes_key {s : Scanner} (free : s.Free) (inFlow : s.inFlow = true) (allowed : s.keyAllowed = true)
    {text : String} {rest : List Char} (basic : IsBasic text)
    (short : (quotation text).length ≤ 1024)
    (h : s.cursor.rest = quotation text ++ ':' :: rest) :
    ∃ s', s'.Free ∧ s'.outerKeys = s.outerKeys ∧
      s.Passes (quotation text ++ [':']) [.key, .scalar .quoted text, .value] s' := by
  obtain ⟨inMind, notRequired, place, taken⟩ := free.token_literal basic h
  have colonNext := Cursor.rest_advance h
  have free₁ := free.behind notRequired (.scalar .quoted text) (quotation text).length
  have colon := @token_colon_of_key (s.behind (.scalar .quoted text) _ inMind) rest _ _ s.tokens inFlow colonNext
    (place allowed) rfl rfl rfl (Nat.add_le_add_left short _)
  have opened : s.cursor.rest = '"' :: (spelled text.toList ++ ['"'] ++ ':' :: rest) := by
    rw [h, quotation_eq]
    rfl
  refine ⟨{ s with
    cursor := s.cursor.advance ((quotation text).length + 1)
    tokens := .value :: .scalar .quoted text :: .key :: s.tokens
    key := none
    keyAllowed := false }, ?_, rfl, ?_, rfl, 2, ?_, fun fuel => ?_⟩
  · exact ⟨free.indent, free.outerIndents, nofun, free.outerKeys⟩
  · rw [List.length_append, List.length_singleton]
  · rw [quotation_eq]
    simp
  · rw [Nat.add_comm, free.run_succ opened (by decide) (by decide) (by decide)]
    rw [taken, Option.bind_some, free₁.run_succ colonNext (by decide) (by decide) (by decide), colon, Option.bind_some]
    simp only [Scanner.behind, Cursor.advance_advance]

namespace Scans
variable {keyed : Bool} {cs ds : List Char} {tokens more : List Token}

theorem toKeyed (scans : Scans false cs tokens) : Scans keyed cs tokens where
  basic := scans.basic
  passes free inFlow _ := scans.passes free inFlow nofun

theorem nil : Scans keyed [] [] where
  basic := nofun
  passes {s} _ _ free _ _ _ _ := ⟨s, free, rfl, .refl s⟩

theorem word {word : List Char} (some : word ≠ []) (alphanumeric : word.all Char.isAlphanum = true) :
    Scans false word [.scalar .plain (String.ofList word)] where
  basic c hc := isBasic_of_isAlphanum (List.all_eq_true.mp alphanumeric c hc)
  passes {s} m rest free inFlow _ mark h := by
    obtain ⟨c, others, rfl⟩ := List.exists_cons_of_ne_nil some
    have first := List.all_eq_true.mp alphanumeric c (List.mem_cons_self ..)
    obtain ⟨inMind, notRequired, taken⟩ := free.token_word inFlow (List.all_eq_true.mp alphanumeric) mark h
    have noComment : c ≠ '#' := ne_of_isAlphanum first (by decide)
    have noMark : c ≠ '\ufeff' := ne_of_isAlphanum first (by decide)
    exact ⟨_, free.behind notRequired _ _, rfl,
      .of_token free h (isGap_of_isAlphanum first) noComment noMark taken rfl rfl⟩

theorem literal {text : String} (basic : IsBasic text) :
    Scans false (quotation text) [.scalar .quoted text] where
  basic := isBasic_of_mem_quotation basic
  passes {s} m rest free _ _ _ h := by
    obtain ⟨inMind, notRequired, -, taken⟩ := free.token_literal basic h
    rw [quotation_eq] at h ⊢
    exact ⟨_, free.behind notRequired _ _, rfl,
      .of_token free h (by decide) (by decide) (by decide) taken (by rw [quotation_eq]; rfl) rfl⟩

/-- Two pieces with a comma between them. -/
theorem comma (first : Scans keyed cs tokens) (others : Scans true ds more) :
    Scans keyed (cs ++ ',' :: ds) (tokens ++ .flowEntry :: more) where
  basic := by
    refine List.forall_mem_append.mpr ⟨first.basic, List.forall_mem_cons.mpr ⟨by decide, others.basic⟩⟩
  passes {s} m rest free inFlow allowed mark h := by
    rw [List.append_assoc] at h
    obtain ⟨s₁, free₁, outer₁, passes₁⟩ := first.passes free inFlow allowed (by decide) h
    obtain ⟨s₂, free₂, outer₂, allowed₂, passes₂⟩ := free₁.passes_comma (passes₁.rest h)
    have inFlow₂ : s₂.inFlow = true := (inFlow_eq (outer₂.trans outer₁)).trans inFlow
    obtain ⟨s₃, free₃, outer₃, passes₃⟩ := others.passes free₂ inFlow₂ (fun _ => allowed₂) mark
      (passes₂.rest (passes₁.rest h))
    exact ⟨s₃, free₃, outer₃.trans (outer₂.trans outer₁), passes₁.trans (passes₂.trans passes₃)⟩

/-- A key with its value. -/
theorem member {text : String} (basic : IsBasic text)
    (short : (quotation text).length ≤ 1024) (value : Scans false cs tokens) :
    Scans true (quotation text ++ ':' :: cs)
      (.key :: .scalar .quoted text :: .value :: tokens) where
  basic := by
    refine List.forall_mem_append.mpr ⟨isBasic_of_mem_quotation basic, ?_⟩
    exact List.forall_mem_cons.mpr ⟨by decide, value.basic⟩
  passes {s} m rest free inFlow allowed mark h := by
    rw [List.append_assoc] at h
    obtain ⟨s₁, free₁, outer₁, passes₁⟩ := free.passes_key inFlow (allowed rfl) basic short h
    have inFlow₁ : s₁.inFlow = true := (inFlow_eq outer₁).trans inFlow
    have next : s₁.cursor.rest = cs ++ m :: rest := passes₁.rest (by rw [h, List.append_assoc]; rfl)
    obtain ⟨s₂, free₂, outer₂, passes₂⟩ := value.passes free₁ inFlow₁ nofun mark next
    have passed := passes₁.trans passes₂
    rw [List.append_assoc] at passed
    exact ⟨s₂, free₂, outer₂.trans outer₁, passed⟩

end Scans

/-! ### Brackets -/

/-- Two marks between which there is a flow collection, and their tokens. -/
structure Brackets (o c : Char) (opening closing : Token) : Prop where
  isOpen : isFlowMark o = true
  isClose : isFlowMark c = true
  opens : ∀ {s : Scanner} {rest : List Char}, s.cursor.rest = o :: rest → s.token o rest = s.openFlow opening
  closes : ∀ {s : Scanner} {rest : List Char}, s.cursor.rest = c :: rest → s.token c rest = s.closeFlow closing

theorem brackets_sequence : Brackets '[' ']' .flowSequenceStart .flowSequenceEnd where
  isOpen := by decide
  isClose := by decide
  opens := token_openSequence
  closes := token_closeSequence

theorem brackets_mapping : Brackets '\x7b' '\x7d' .flowMappingStart .flowMappingEnd where
  isOpen := by decide
  isClose := by decide
  opens := token_openMapping
  closes := token_closeMapping

section
variable {cs : List Char} {tokens : List Token} {o c : Char} {opening closing : Token}
  (brackets : Brackets o c opening closing) (inside : Scans true cs tokens)
include brackets inside

/-- A flow collection is passed wherever it stands, be it inside another one or not. -/
theorem Brackets.passes {s : Scanner} {rest : List Char} (free : s.Free) (h : s.cursor.rest = o :: (cs ++ c :: rest)) :
    ∃ s', s'.Free ∧ s'.outerKeys = s.outerKeys ∧ s.Passes (o :: (cs ++ [c])) (opening :: (tokens ++ [closing])) s' := by
  obtain ⟨s₁, inMind, free₁, outer₁, allowed₁, passes₁⟩ := free.passes_open brackets.isOpen h (brackets.opens h)
  have inFlow₁ : s₁.inFlow = true := by
    rw [inFlow, outer₁]
    rfl
  obtain ⟨s₂, free₂, outer₂, passes₂⟩ :=
    inside.passes free₁ inFlow₁ (fun _ => allowed₁) brackets.isClose (passes₁.rest h)
  have last := passes₂.rest (passes₁.rest h)
  obtain ⟨s₃, free₃, outer₃, passes₃⟩ :=
    free₂.passes_close brackets.isClose last (outer₂.trans outer₁) (brackets.closes last)
  exact ⟨s₃, free₃, outer₃, passes₁.trans (passes₂.trans passes₃)⟩

theorem Brackets.scans : Scans false (o :: (cs ++ [c])) (opening :: (tokens ++ [closing])) where
  basic := by
    refine List.forall_mem_cons.mpr ⟨isBasic_of_isFlowMark brackets.isOpen, List.forall_mem_append.mpr ?_⟩
    exact ⟨inside.basic, List.forall_mem_singleton.mpr (isBasic_of_isFlowMark brackets.isClose)⟩
  passes {s} m rest free _ _ _ h := by
    have opened : s.cursor.rest = o :: (cs ++ c :: (m :: rest)) := by simp [h]
    exact brackets.passes inside free opened

end

/-! ### Texts -/

theorem free_start (text : List Char) : (start text).Free := ⟨rfl, rfl, nofun, nofun⟩

/-- A flow mapping is cut into its tokens when it is the whole text. -/
theorem tokens_mapping {cs : List Char} {tokens : List Token} (inside : Scans true cs tokens) :
    Yaml.tokens ('\x7b' :: (cs ++ ['\x7d'])) =
      some (.flowMappingStart :: (tokens ++ [.flowMappingEnd]) ++ [.streamEnd]) := by
  have printable : ('\x7b' :: (cs ++ ['\x7d'])).all isPrintable = true :=
    List.all_eq_true.mpr fun c hc => isPrintable_of_isBasic ((brackets_mapping.scans inside).basic c hc)
  have start_rest : (start ('\x7b' :: (cs ++ ['\x7d']))).cursor.rest = '\x7b' :: (cs ++ '\x7d' :: []) := rfl
  obtain ⟨s, free, -, passes⟩ := brackets_mapping.passes inside (free_start _) start_rest
  have finished : s.cursor.rest = [] := passes.rest (start_rest.trans (List.append_nil _).symm)
  obtain ⟨n, hn, run⟩ := passes.run
  obtain ⟨more, same⟩ := Nat.exists_eq_add_of_le hn
  rw [Yaml.tokens, if_pos printable, same, Nat.add_assoc, run, free.run_end finished, passes.tokens]
  simp [start]

end EntityGen.Yaml.Scanner
