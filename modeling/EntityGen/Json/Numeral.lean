/-!
Numbers as a JSON document writes them, and what they stand for. A numeral without fraction and exponent
is an integer if 64 bits hold it; every other numeral is a floating-point number, taken from the first
digits that fit in 64 bits and a power of ten. A numeral whose value would be infinite stands for
nothing. -/
namespace EntityGen.Json

structure Numeral where
  negative : Bool
  whole : Nat
  /-- The digits after the point. -/
  fraction : List Nat
  exponent : Option Int
  deriving DecidableEq, Repr

/-- What a numeral stands for. -/
inductive Number where
  | integer (n : Int)
  | float (x : Float)
  deriving Repr

namespace Numeral

/-- The numeral of a natural number. -/
def ofNat (n : Nat) : Numeral := ⟨false, n, [], none⟩

/-- Written without fraction and exponent. -/
def isPlain (n : Numeral) : Bool := n.fraction.isEmpty && n.exponent.isNone

/-- The first number that 64 bits do not hold. -/
def wordLimit : Nat := 0x10000000000000000

/-- The leading digits of `n` that 64 bits hold, and the number of digits left out. -/
def leading (n : Nat) : Nat × Nat :=
  if n < wordLimit then (n, 0)
  else
    let (digits, dropped) := leading (n / 10)
    (digits, dropped + 1)
termination_by n
decreasing_by simp only [wordLimit] at *; omega

/-- Further digits are taken on while 64 bits hold them; the first that does not fit ends it. Gives
the significand and the number of digits taken on. -/
def extend (significand : Nat) : List Nat → Nat × Nat
  | [] => (significand, 0)
  | digit :: rest =>
    if significand * 10 + digit < wordLimit then
      let (digits, taken) := extend (significand * 10 + digit) rest
      (digits, taken + 1)
    else (significand, 0)

/-- The first significant digits that 64 bits hold, and the power of ten to take them by, the written
exponent aside. -/
def significand (n : Numeral) : Nat × Int :=
  let (digits, dropped) := leading n.whole
  let (digits, taken) := extend digits n.fraction
  (digits, (dropped : Int) - taken)

def powerOfTen (n : Nat) : Float := Float.ofScientific 1 false n

/-- The significand times a power of ten; nothing if that is infinite. Powers below `10 ^ -308` are
reached in steps. -/
def scaled? (significand : Nat) (exponent : Int) : Option Float :=
  let x := significand.toUInt64.toFloat
  if 0 ≤ exponent then
    if exponent ≤ 308 then
      let y := x * powerOfTen exponent.toNat
      if y.isInf then none else some y
    else if significand = 0 then some x else none
  else if -308 ≤ exponent then some (x / powerOfTen (-exponent).toNat)
  else if -616 ≤ exponent then some (x / powerOfTen 308 / powerOfTen (-exponent - 308).toNat)
  else some 0

/-- An exponent written with a number of more than 31 bits is past all others. -/
def isPast (exponent : Int) : Bool := decide (0x80000000 ≤ exponent.natAbs)

/-- The numeral as a floating-point number without its sign. -/
def magnitude? (n : Numeral) : Option Float :=
  let (significand, power) := n.significand
  match n.exponent with
  | none => scaled? significand power
  | some exponent =>
    if isPast exponent then
      if significand ≠ 0 ∧ 0 < exponent then none else some 0
    else scaled? significand (power + exponent)

/-- The number that a numeral stands for. Minus zero is a floating-point number. -/
def value? (n : Numeral) : Option Number :=
  let float := n.magnitude?.map fun x => Number.float (if n.negative then -x else x)
  if n.isPlain then
    if n.negative then
      if 0 < n.whole ∧ n.whole ≤ 0x8000000000000000 then some (.integer (-n.whole)) else float
    else if n.whole < wordLimit then some (.integer n.whole)
    else float
  else float

end Numeral

end EntityGen.Json
