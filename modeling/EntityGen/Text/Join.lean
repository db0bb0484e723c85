/-!
Texts put together from parts: `concat` writes parts one after the other, `sepBy` writes a separator
between neighbours, `padRight` fills a text up to a width. The lemmas say how each meets `++`, so that
a text built from a list of parts can be taken apart again part by part. -/
namespace EntityGen.Text

/-- The parts one after the other. -/
def concat : List String → String
  | [] => ""
  | part :: rest => part ++ concat rest

@[simp] theorem concat_nil : concat [] = "" := rfl

@[simp] theorem concat_cons (part : String) (rest : List String) :
    concat (part :: rest) = part ++ concat rest := rfl

/-- A list split in two is written as its two halves. -/
theorem concat_append (first second : List String) :
    concat (first ++ second) = concat first ++ concat second := by
  induction first with
  | nil => simp
  | cons part rest ih => simp [ih, String.append_assoc]

/-- The parts with `sep` between neighbours. -/
def sepBy (sep : String) : List String → String
  | [] => ""
  | [part] => part
  | part :: next :: rest => part ++ sep ++ sepBy sep (next :: rest)

@[simp] theorem sepBy_nil (sep : String) : sepBy sep [] = "" := rfl

@[simp] theorem sepBy_singleton (sep part : String) : sepBy sep [part] = part := rfl

theorem sepBy_cons_cons (sep part next : String) (rest : List String) :
    sepBy sep (part :: next :: rest) = part ++ sep ++ sepBy sep (next :: rest) := rfl

/-- The part if it is wanted. -/
def onlyIf (wanted : Bool) (part : String) : List String := if wanted then [part] else []

@[simp] theorem onlyIf_true (part : String) : onlyIf true part = [part] := rfl

@[simp] theorem onlyIf_false (part : String) : onlyIf false part = [] := rfl

theorem forall_mem_onlyIf {P : String → Prop} {wanted : Bool} {part : String} (h : P part) :
    ∀ s ∈ onlyIf wanted part, P s := by
  cases wanted <;> simp [h]

/-- `n` spaces. -/
def spaces (n : Nat) : String := String.ofList (List.replicate n ' ')

@[simp] theorem toList_spaces (n : Nat) : (spaces n).toList = List.replicate n ' ' := by
  simp [spaces]

/-- A text filled up with spaces to `width` characters; a longer one is left as it is. -/
def padRight (width : Nat) (s : String) : String := s ++ spaces (width - s.length)

theorem toList_padRight (width : Nat) (s : String) :
    (padRight width s).toList = s.toList ++ List.replicate (width - s.length) ' ' := by
  simp [padRight]

end EntityGen.Text
