/-!
Sets of characters as the tables of a standard give them: runs of code points at a fixed step. A
table is a list of runs; `Run.within` is the only question asked of one, so lemmas about a property
speak of the question and never of the data. -/
namespace EntityGen.Text

/-- Every `step`-th code point from `first` to `last`. -/
structure Run where
  first : Nat
  last : Nat
  step : Nat
  deriving Repr, DecidableEq

namespace Run

def holds (r : Run) (n : Nat) : Bool :=
  decide (r.first ≤ n) && decide (n ≤ r.last) && (n - r.first) % r.step == 0

/-- A code point is in a table when it is in one of its runs. -/
def within (table : List Run) (n : Nat) : Bool := table.any (·.holds n)

@[simp] theorem within_nil (n : Nat) : within [] n = false := rfl

theorem within_cons (r : Run) (table : List Run) (n : Nat) :
    within (r :: table) n = (r.holds n || within table n) := rfl

end Run

/-- A character below U+0080. -/
def isAscii (c : Char) : Bool := c.toNat < 128

end EntityGen.Text
