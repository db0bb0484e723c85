/-!
The shortest decimal text of a binary floating-point number: as few digits as tell it apart from every
other one, and of those the nearest. A finite positive number is `significand * 2 ^ exponent`; the
reals that round to it form an interval around it, and the text is found on the coarsest decimal grid
that has a point in that interval. Everything is exact arithmetic on natural numbers. -/
namespace EntityGen.Decimal

/-- A positive number `significand * 2 ^ exponent` among its neighbours of the same format. -/
structure Binary where
  significand : Nat
  exponent : Int
  /-- The neighbour below is only half as far away as the one above. -/
  narrow : Bool
  deriving Repr, DecidableEq

/-- The significand and exponent of a finite positive `Float`, from its bits. -/
def Binary.ofBits (bits : Nat) : Binary :=
  let fraction := bits % Nat.pow 2 52
  let biased := bits / Nat.pow 2 52 % Nat.pow 2 11
  if biased = 0 then { significand := fraction, exponent := -1074, narrow := false }
  else
    { significand := Nat.pow 2 52 + fraction
      exponent := Int.ofNat biased - 1075
      narrow := decide (fraction = 0 ∧ 1 < biased) }

/-- A positive decimal number: its digits, and the power of ten of the first of them. -/
structure Scientific where
  digits : List Char
  exponent : Int
  deriving Repr, DecidableEq

/-- The power of ten of the leading digit. -/
def Binary.magnitude (b : Binary) : Int :=
  let shift : Nat := 400
  let scaled := b.significand * Nat.pow 2 b.exponent.toNat * Nat.pow 10 shift / Nat.pow 2 (-b.exponent).toNat
  ((Nat.toDigits 10 scaled).length : Int) - 1 - shift

/-- The point of the grid of multiples of `10 ^ step` that reads back as `b` and lies nearest to it,
an even multiple if two are equally near. -/
def Binary.onGrid? (b : Binary) (step : Int) : Option Nat :=
  let unit := Nat.pow 2 (-b.exponent).toNat * Nat.pow 10 step.toNat * 4
  let scale := Nat.pow 2 b.exponent.toNat * Nat.pow 10 (-step).toNat
  let value := b.significand * 4 * scale
  let low := value - (if b.narrow then 1 else 2) * scale
  let high := value + 2 * scale
  let readsBack := fun (point : Nat) =>
    if b.significand % 2 = 0 then decide (low ≤ point * unit) && decide (point * unit ≤ high)
    else decide (low < point * unit) && decide (point * unit < high)
  let below := value / unit
  let above := below + 1
  let nearest :=
    if value - below * unit < above * unit - value then below
    else if above * unit - value < value - below * unit then above
    else if below % 2 = 0 then below else above
  if below ≠ 0 && readsBack nearest then some nearest
  else if below ≠ 0 && readsBack below then some below
  else if readsBack above then some above
  else none

/-- The shortest decimal of at least `places` digits, of at most `places + fuel`. -/
def Binary.shortestFrom (b : Binary) (places : Nat) : Nat → Scientific
  | 0 => ⟨[], 0⟩
  | fuel + 1 =>
    let step := b.magnitude - places + 1
    match b.onGrid? step with
    | some point =>
      let digits := Nat.toDigits 10 point
      let kept := (digits.reverse.dropWhile (· == '0')).reverse
      ⟨kept, digits.length - 1 + step⟩
    | none => b.shortestFrom (places + 1) fuel

/-- Seventeen digits always suffice. -/
def Binary.shortest (b : Binary) : Scientific := b.shortestFrom 1 17

/-- Digits written out with a decimal point for leading digits from the fifth decimal place to the
sixteenth place before the point, and with a power of ten beyond. -/
def Scientific.layout (d : Scientific) : List Char :=
  if 0 ≤ d.exponent ∧ d.exponent < 16 then
    let places := d.exponent.toNat + 1
    let whole := d.digits.take places ++ List.replicate (places - d.digits.length) '0'
    let fraction := d.digits.drop places
    whole ++ '.' :: (if fraction.isEmpty then ['0'] else fraction)
  else if -5 ≤ d.exponent ∧ d.exponent < 0 then
    '0' :: '.' :: List.replicate (-d.exponent - 1).toNat '0' ++ d.digits
  else
    let power := (if d.exponent < 0 then '-' else '+') :: Nat.toDigits 10 d.exponent.natAbs
    match d.digits with
    | [] => 'e' :: power
    | [first] => first :: 'e' :: power
    | first :: rest => first :: '.' :: rest ++ 'e' :: power

/-- The text of a finite floating-point number. -/
def text (x : Float) : String :=
  let bits := x.toBits.toNat
  let sign := if bits < Nat.pow 2 63 then [] else ['-']
  let positive := bits % Nat.pow 2 63
  let digits :=
    if positive = 0 then ['0', '.', '0'] else (Binary.ofBits positive).shortest.layout
  String.ofList (sign ++ digits)

end EntityGen.Decimal
