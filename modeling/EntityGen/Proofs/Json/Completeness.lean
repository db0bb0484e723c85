import EntityGen.Json.Reader
import EntityGen.Proofs.Json.Scanning
import Mathlib.Data.List.DropRight

/-!
Every text of the grammar is read as its value. A value is read to its end whatever follows it, so long as that
ends a number, and with as much fuel as a document has (`value_append`); a document leaves nothing behind it
(`parse_of_mem_documents`). The induction is on the value, and its bounds count what is left of the text: a level
takes three units of fuel at most, and one character at least. -/
namespace EntityGen.Json

variable {fuel : Nat} {cs rest : List Char}

/-! ### Steps of the reader -/

theorem skipBlank_skipBlank : skipBlank (skipBlank cs) = skipBlank cs :=
  List.dropWhile_idempotent isBlank cs

theorem value_skipBlank : value fuel (skipBlank cs) = value fuel cs := by
  cases fuel with
  | zero => rfl
  | succ fuel => rw [value, value, skipBlank_skipBlank]

theorem value_blanks {before : List Char} (h : before ∈ blanks) :
    value fuel (before ++ cs) = value fuel cs := by
  rw [← value_skipBlank, skipBlank_append h, value_skipBlank]

theorem moreItems_skipBlank : moreItems fuel (skipBlank cs) = moreItems fuel cs := by
  cases fuel with
  | zero => rfl
  | succ fuel => rw [moreItems, moreItems, value_skipBlank]

theorem moreMembers_skipBlank : moreMembers fuel (skipBlank cs) = moreMembers fuel cs := by
  cases fuel with
  | zero => rfl
  | succ fuel => rw [moreMembers, moreMembers, skipBlank_skipBlank]

theorem value_quote : value (fuel + 1) ('"' :: cs) = orBroken .string (literalOf cs) := rfl

theorem value_bracket :
    value (fuel + 1) ('[' :: cs) =
      (.array (items fuel cs).parts (items fuel cs).ending, (items fuel cs).rest) := rfl

theorem value_brace :
    value (fuel + 1) ('\x7b' :: cs) =
      (.object (members fuel cs).parts (members fuel cs).ending, (members fuel cs).rest) := rfl

/-- A number starts like nothing else. -/
theorem ne_of_startsNumber {c d : Char} (h : c = '-' ∨ c.isDigit = true)
    (other : d ≠ '-' ∧ d.isDigit = false) : c ≠ d := by
  rintro rfl
  rcases h with same | isDigit
  · exact other.1 same
  · exact nomatch other.2.symm.trans isDigit

theorem not_isBlank_of_startsNumber {c : Char} (h : c = '-' ∨ c.isDigit = true) : isBlank c = false := by
  have space : c ≠ ' ' := ne_of_startsNumber h (by decide)
  have tab : c ≠ '\t' := ne_of_startsNumber h (by decide)
  have feed : c ≠ '\n' := ne_of_startsNumber h (by decide)
  have back : c ≠ '\r' := ne_of_startsNumber h (by decide)
  simp [isBlank, space, tab, feed, back]

theorem value_numeral {c : Char} (h : c = '-' ∨ c.isDigit = true) :
    value (fuel + 1) (c :: cs) = orBroken .number (numeral (c :: cs)) := by
  have quote : c ≠ '"' := ne_of_startsNumber h (by decide)
  have bracket : c ≠ '[' := ne_of_startsNumber h (by decide)
  have brace : c ≠ '\x7b' := ne_of_startsNumber h (by decide)
  have n : c ≠ 'n' := ne_of_startsNumber h (by decide)
  have t : c ≠ 't' := ne_of_startsNumber h (by decide)
  have f : c ≠ 'f' := ne_of_startsNumber h (by decide)
  rw [value, skipBlank_cons (not_isBlank_of_startsNumber h)]
  simp only [quote, bracket, brace, n, t, f, h, if_true, if_false]

/-- A value starts with a character that is neither a blank nor what closes an array. -/
theorem texts_head : ∀ {j : Json}, cs ∈ j.texts → ∃ c tail, cs = c :: tail ∧ isBlank c = false ∧ c ≠ ']'
  | null, h | bool true, h | bool false, h => by
    simp only [texts] at h
    obtain rfl := Set.mem_singleton_iff.mp h
    exact ⟨_, _, rfl, by decide, by decide⟩
  | number n, h => by
    obtain ⟨-, c, tail, rfl, start⟩ := numeral_append (by simpa only [texts] using h) ends_nil
    exact ⟨c, tail, rfl, not_isBlank_of_startsNumber start, ne_of_startsNumber start (by decide)⟩
  | string literal, h => by
    obtain ⟨tail, rfl, -⟩ := literalOf_append (by simpa only [texts] using h)
    exact ⟨'"', tail, rfl, by decide, by decide⟩
  | array items none, h => by
    obtain ⟨tail, -, rfl⟩ := mem_mark_mul.mp (by simpa only [texts] using h)
    exact ⟨'[', tail, rfl, by decide, by decide⟩
  | object members none, h => by
    obtain ⟨tail, -, rfl⟩ := mem_mark_mul.mp (by simpa only [texts] using h)
    exact ⟨'\x7b', tail, rfl, by decide, by decide⟩
  | array _ (some _), h | object _ (some _), h | broken _, h => by
    simp only [texts, Language.notMem_zero] at h

theorem after_close {α : Type} {close : Char} {more : List Char → Held α} {part : α} {after : List Char}
    (h : after ∈ blanks) (visible : isBlank close = false) :
    Held.after close more part (some (after ++ close :: rest)) = ⟨[part], none, some rest⟩ := by
  simp only [Held.after, skipBlank_append h, skipBlank_cons visible, if_true]

theorem after_comma {α : Type} {close : Char} {more : List Char → Held α} {part : α} {after : List Char}
    (h : after ∈ blanks) (other : ',' ≠ close) :
    Held.after close more part (some (after ++ ',' :: rest)) = (more rest).cons part := by
  have visible : isBlank ',' = false := rfl
  simp only [Held.after, skipBlank_append h, skipBlank_cons visible, other, if_true, if_false]

theorem ends_mark {c : Char} (h : c = ',' ∨ c = ']' ∨ c = '\x7d') : Ends (c :: rest) := by
  intro d hd
  cases hd
  exact .inr h

/-! ### Items and members -/

/-- An item is read, and then what is behind it. -/
theorem moreItems_step {before text tail : List Char} {item : Json} (hb : before ∈ blanks)
    (read : value fuel (text ++ tail) = (item, some tail)) :
    moreItems (fuel + 1) (before ++ (text ++ tail)) = Held.after ']' (moreItems fuel) item (some tail) := by
  rw [moreItems, value_blanks hb, read]

/-- A member is read, its key and its value, and then what is behind it. -/
theorem moreMembers_step {before keyText after middle text tail : List Char} {key : Literal} {item : Json}
    (hb : before ∈ blanks) (hk : keyText ∈ key.texts) (ha : after ∈ blanks) (hm : middle ∈ blanks)
    (read : value fuel (text ++ tail) = (item, some tail)) :
    moreMembers (fuel + 2) (before ++ (keyText ++ (after ++ ':' :: (middle ++ (text ++ tail))))) =
      Held.after '\x7d' (moreMembers (fuel + 1)) (key, item) (some tail) := by
  obtain ⟨keyTail, rfl, literal⟩ := literalOf_append hk
  have colon : isBlank ':' = false := rfl
  have member : member (fuel + 1) (after ++ ':' :: (middle ++ (text ++ tail))) = (item, some tail) := by
    rw [Json.member, skipBlank_append ha, skipBlank_cons colon]
    show value fuel (middle ++ (text ++ tail)) = _
    rw [value_blanks hm, read]
  have quote : isBlank '"' = false := rfl
  rw [moreMembers, skipBlank_append hb, List.cons_append, skipBlank_cons quote]
  simp only [if_true, literal, member]

/-- A text of items starts with a text of the first, after blanks. -/
theorem itemTexts_head {item : Json} {others : List Json} (h : cs ∈ itemTexts (item :: others)) :
    ∃ before ∈ blanks, ∃ text ∈ item.texts, ∃ tail, cs = before ++ (text ++ tail) := by
  cases others with
  | nil =>
    obtain ⟨before, hb, text, ht, after, -, rfl⟩ := mem_spaced.mp (by simpa only [itemTexts] using h)
    exact ⟨before, hb, text, ht, after, rfl⟩
  | cons next others =>
    obtain ⟨_, first, tail, -, rfl⟩ := Language.mem_mul.mp (by simpa only [itemTexts] using h)
    obtain ⟨before, hb, text, ht, after, -, rfl⟩ := mem_spaced.mp first
    exact ⟨before, hb, text, ht, after ++ tail, by simp⟩

/-- A text of members starts with a text of the first key, after blanks. -/
theorem memberTexts_head {key : Literal} {item : Json} {others : List (Literal × Json)}
    (h : cs ∈ memberTexts ((key, item) :: others)) :
    ∃ before ∈ blanks, ∃ text ∈ key.texts, ∃ tail, cs = before ++ (text ++ tail) := by
  cases others with
  | nil =>
    obtain ⟨_, first, tail, -, rfl⟩ := Language.mem_mul.mp (by simpa only [memberTexts] using h)
    obtain ⟨before, hb, text, ht, after, -, rfl⟩ := mem_spaced.mp first
    exact ⟨before, hb, text, ht, after ++ tail, by simp⟩
  | cons next others =>
    obtain ⟨_, pair, others, -, rfl⟩ := Language.mem_mul.mp (by simpa only [memberTexts] using h)
    obtain ⟨_, first, tail, -, rfl⟩ := Language.mem_mul.mp pair
    obtain ⟨before, hb, text, ht, after, -, rfl⟩ := mem_spaced.mp first
    exact ⟨before, hb, text, ht, after ++ (tail ++ others), by simp⟩

/-- Where there is an item, an array does not end at once. -/
theorem items_append {item : Json} {others : List Json} (h : cs ∈ itemTexts (item :: others)) :
    items (fuel + 1) (cs ++ ']' :: rest) = moreItems fuel (cs ++ ']' :: rest) := by
  obtain ⟨before, hb, text, ht, tail, rfl⟩ := itemTexts_head h
  obtain ⟨c, text, rfl, visible, open_⟩ := texts_head ht
  have shown : skipBlank (before ++ (c :: text ++ tail) ++ ']' :: rest) =
      c :: (text ++ (tail ++ ']' :: rest)) := by
    rw [List.append_assoc, skipBlank_append hb, List.append_assoc, List.cons_append, skipBlank_cons visible]
  rw [items, shown]
  show (if c = ']' then _ else moreItems fuel (c :: (text ++ (tail ++ ']' :: rest)))) = _
  rw [if_neg open_, ← shown, moreItems_skipBlank]

/-- Where there is a member, an object does not end at once. -/
theorem members_append {member : Literal × Json} {others : List (Literal × Json)}
    (h : cs ∈ memberTexts (member :: others)) :
    members (fuel + 1) (cs ++ '\x7d' :: rest) = moreMembers fuel (cs ++ '\x7d' :: rest) := by
  obtain ⟨before, hb, text, ht, tail, rfl⟩ := memberTexts_head h
  obtain ⟨text, rfl, -⟩ := literalOf_append ht
  have quote : isBlank '"' = false := rfl
  have shown : skipBlank (before ++ ('"' :: text ++ tail) ++ '\x7d' :: rest) =
      '"' :: (text ++ (tail ++ '\x7d' :: rest)) := by
    rw [List.append_assoc, skipBlank_append hb, List.append_assoc, List.cons_append, skipBlank_cons quote]
  rw [members, shown]
  show moreMembers fuel ('"' :: (text ++ (tail ++ '\x7d' :: rest))) = _
  rw [← shown, moreMembers_skipBlank]

/-! ### Values -/

mutual

/-- **A text of a value is read as the value**, to its end and no further. -/
theorem value_append : ∀ (j : Json) {fuel : Nat} {cs rest : List Char}, cs ∈ j.texts → Ends rest →
    3 * (cs.length + rest.length) < fuel → value fuel (cs ++ rest) = (j, some rest)
  | j, 0, _, _, _, _, hf => absurd hf (Nat.not_lt_zero _)
  | null, fuel + 1, cs, rest, h, _, _ | bool true, fuel + 1, cs, rest, h, _, _
  | bool false, fuel + 1, cs, rest, h, _, _ => by
    simp only [texts] at h
    obtain rfl := Set.mem_singleton_iff.mp h
    rfl
  | number n, fuel + 1, cs, rest, h, hr, _ => by
    obtain ⟨read, c, tail, rfl, start⟩ := numeral_append (by simpa only [texts] using h) hr
    rw [List.cons_append, value_numeral start, ← List.cons_append, read]
    rfl
  | string literal, fuel + 1, cs, rest, h, _, _ => by
    obtain ⟨tail, rfl, read⟩ := literalOf_append (by simpa only [texts] using h)
    rw [List.cons_append, value_quote, read]
    rfl
  | array its none, fuel + 1, cs, rest, h, _, hf => by
    obtain ⟨_, inside, rfl⟩ := mem_mark_mul.mp (by simpa only [texts] using h)
    obtain ⟨body, hbody, rfl⟩ := mem_mul_mark.mp inside
    simp only [List.length_cons, List.length_append, List.length_nil] at hf
    obtain ⟨fuel, rfl⟩ : ∃ n, fuel = n + 1 := ⟨fuel - 1, by omega⟩
    have held : items (fuel + 1) (body ++ ']' :: rest) = ⟨its, none, some rest⟩ := by
      cases its with
      | nil =>
        have closing : isBlank ']' = false := rfl
        rw [items, skipBlank_append (by simpa only [itemTexts] using hbody), skipBlank_cons closing]
        rfl
      | cons item others =>
        rw [items_append hbody]
        exact moreItems_append (item :: others) (List.cons_ne_nil _ _) hbody (by omega)
    rw [List.cons_append, List.append_assoc, List.singleton_append, value_bracket, held]
  | object ms none, fuel + 1, cs, rest, h, _, hf => by
    obtain ⟨_, inside, rfl⟩ := mem_mark_mul.mp (by simpa only [texts] using h)
    obtain ⟨body, hbody, rfl⟩ := mem_mul_mark.mp inside
    simp only [List.length_cons, List.length_append, List.length_nil] at hf
    obtain ⟨fuel, rfl⟩ : ∃ n, fuel = n + 1 := ⟨fuel - 1, by omega⟩
    have held : members (fuel + 1) (body ++ '\x7d' :: rest) = ⟨ms, none, some rest⟩ := by
      cases ms with
      | nil =>
        have closing : isBlank '\x7d' = false := rfl
        rw [members, skipBlank_append (by simpa only [memberTexts] using hbody), skipBlank_cons closing]
        rfl
      | cons member others =>
        rw [members_append hbody]
        exact moreMembers_append (member :: others) (List.cons_ne_nil _ _) hbody (by omega)
    rw [List.cons_append, List.append_assoc, List.singleton_append, value_brace, held]
  | array _ (some _), fuel + 1, cs, _, h, _, _ | object _ (some _), fuel + 1, cs, _, h, _, _
  | broken _, fuel + 1, cs, _, h, _, _ => by
    simp only [texts, Language.notMem_zero] at h

theorem moreItems_append : ∀ (its : List Json) {fuel : Nat} {cs rest : List Char}, its ≠ [] →
    cs ∈ itemTexts its → 3 * (cs.length + rest.length + 1) + 1 < fuel →
      moreItems fuel (cs ++ ']' :: rest) = ⟨its, none, some rest⟩
  | _, 0, _, _, _, _, hf => absurd hf (Nat.not_lt_zero _)
  | [], _ + 1, _, _, h, _, _ => absurd rfl h
  | [item], fuel + 1, cs, rest, _, h, hf => by
    obtain ⟨before, hb, text, ht, after, ha, rfl⟩ := mem_spaced.mp (by simpa only [itemTexts] using h)
    simp only [List.length_append] at hf
    have read : value fuel (text ++ (after ++ ']' :: rest)) = (item, some (after ++ ']' :: rest)) :=
      value_append item ht (ends_append ha (ends_mark (.inr (.inl rfl)))) (by simp; omega)
    rw [List.append_assoc, List.append_assoc, moreItems_step hb read, after_close ha rfl]
  | item :: next :: others, fuel + 1, cs, rest, _, h, hf => by
    obtain ⟨_, first, _, tail, rfl⟩ := Language.mem_mul.mp (by simpa only [itemTexts] using h)
    obtain ⟨before, hb, text, ht, after, ha, rfl⟩ := mem_spaced.mp first
    obtain ⟨more, hmore, rfl⟩ := mem_mark_mul.mp tail
    simp only [List.length_append, List.length_cons] at hf
    have read : value fuel (text ++ (after ++ ',' :: (more ++ ']' :: rest))) =
        (item, some (after ++ ',' :: (more ++ ']' :: rest))) :=
      value_append item ht (ends_append ha (ends_mark (.inl rfl))) (by simp; omega)
    have others_read : moreItems fuel (more ++ ']' :: rest) = ⟨next :: others, none, some rest⟩ :=
      moreItems_append (next :: others) (List.cons_ne_nil _ _) hmore (by omega)
    simp only [List.append_assoc, List.cons_append]
    rw [moreItems_step hb read, after_comma ha (by decide), others_read]
    rfl

theorem moreMembers_append : ∀ (ms : List (Literal × Json)) {fuel : Nat} {cs rest : List Char}, ms ≠ [] →
    cs ∈ memberTexts ms → 3 * (cs.length + rest.length + 1) + 1 < fuel →
      moreMembers fuel (cs ++ '\x7d' :: rest) = ⟨ms, none, some rest⟩
  | _, 0, _, _, _, _, hf => absurd hf (Nat.not_lt_zero _)
  | [], _ + 1, _, _, h, _, _ => absurd rfl h
  | [(key, item)], fuel + 1, cs, rest, _, h, hf => by
    obtain ⟨_, first, _, second, rfl⟩ := Language.mem_mul.mp (by simpa only [memberTexts] using h)
    obtain ⟨before, hb, keyText, hk, gap, hg, rfl⟩ := mem_spaced.mp first
    obtain ⟨_, colon, rfl⟩ := mem_mark_mul.mp second
    obtain ⟨middle, hm, text, ht, after, ha, rfl⟩ := mem_spaced.mp colon
    simp only [List.length_append, List.length_cons] at hf
    obtain ⟨fuel, rfl⟩ : ∃ n, fuel = n + 1 := ⟨fuel - 1, by omega⟩
    have read : value fuel (text ++ (after ++ '\x7d' :: rest)) = (item, some (after ++ '\x7d' :: rest)) :=
      value_append item ht (ends_append ha (ends_mark (.inr (.inr rfl)))) (by simp; omega)
    simp only [List.append_assoc, List.cons_append]
    rw [moreMembers_step hb hk hg hm read, after_close ha rfl]
  | (key, item) :: next :: others, fuel + 1, cs, rest, _, h, hf => by
    obtain ⟨_, pair, _, tail, rfl⟩ := Language.mem_mul.mp (by simpa only [memberTexts] using h)
    obtain ⟨_, first, _, second, rfl⟩ := Language.mem_mul.mp pair
    obtain ⟨before, hb, keyText, hk, gap, hg, rfl⟩ := mem_spaced.mp first
    obtain ⟨_, colon, rfl⟩ := mem_mark_mul.mp second
    obtain ⟨middle, hm, text, ht, after, ha, rfl⟩ := mem_spaced.mp colon
    obtain ⟨more, hmore, rfl⟩ := mem_mark_mul.mp tail
    simp only [List.length_append, List.length_cons] at hf
    obtain ⟨fuel, rfl⟩ : ∃ n, fuel = n + 1 := ⟨fuel - 1, by omega⟩
    have read : value fuel (text ++ (after ++ ',' :: (more ++ '\x7d' :: rest))) =
        (item, some (after ++ ',' :: (more ++ '\x7d' :: rest))) :=
      value_append item ht (ends_append ha (ends_mark (.inl rfl))) (by simp; omega)
    have others_read : moreMembers (fuel + 1) (more ++ '\x7d' :: rest) = ⟨next :: others, none, some rest⟩ :=
      moreMembers_append (next :: others) (List.cons_ne_nil _ _) hmore (by omega)
    simp only [List.append_assoc, List.cons_append]
    rw [moreMembers_step hb hk hg hm read, after_comma ha (by decide), others_read]
    rfl

end

/-- **A document is read as its value.** -/
theorem parse_of_mem_documents {j : Json} {text : String} (h : text.toList ∈ documents j) :
    parse text = ⟨j, false⟩ := by
  obtain ⟨before, hb, body, hbody, after, ha, same⟩ := mem_spaced.mp h
  have ends : Ends after := by
    have := ends_append ha ends_nil
    rwa [List.append_nil] at this
  have read : value (3 * text.toList.length + 3) text.toList = (j, some after) := by
    rw [← same, value_blanks hb]
    exact value_append j hbody ends (by simp only [List.length_append]; omega)
  rw [parse]
  simp only [read, Option.getD_some, skipBlank_of_blanks ha]
  rfl

/-- A document is read as its value is. -/
theorem readDocument_of_mem_documents {α : Type} {read : Json → Except Fault α} {j : Json} {text : String}
    (h : text.toList ∈ documents j) : readDocument read text = read j := by
  unfold readDocument
  simp only [parse_of_mem_documents h]
  cases read j <;> rfl

end EntityGen.Json
