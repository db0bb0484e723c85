import EntityGen.Toml.Basic

/-!
Numbers, dates and times of TOML. Integers have 64 bits. A float is kept without its value; one that is
too large for its format is refused, unless it is negative. -/
namespace EntityGen.Toml

/-- The value of a digit in a base up to sixteen. -/
def digit? (base : Nat) (c : Char) : Option Nat :=
  let value :=
    if c.isDigit then some (c.toNat - '0'.toNat)
    else if 'a' ≤ c ∧ c ≤ 'f' then some (c.toNat - 'a'.toNat + 10)
    else if 'A' ≤ c ∧ c ≤ 'F' then some (c.toNat - 'A'.toNat + 10)
    else none
  value.filter (· < base)

/-- Digits from here on, with single underscores between them. -/
def moreDigits (base : Nat) : List Char → List Nat × List Char
  | [] => ([], [])
  | [c] =>
    match digit? base c with
    | some d => ([d], [])
    | none => ([], [c])
  | c :: next :: rest =>
    match digit? base c with
    | some d =>
      let (ds, rest) := moreDigits base (next :: rest)
      (d :: ds, rest)
    | none =>
      if c == '_' then
        match digit? base next with
        | some d =>
          let (ds, rest) := moreDigits base rest
          (d :: ds, rest)
        | none => ([], c :: next :: rest)
      else ([], c :: next :: rest)

/-- At least one digit; an underscore stands only between two. -/
def digits? (base : Nat) (cs : List Char) : Option (List Nat × List Char) :=
  match cs with
  | [] => none
  | c :: rest => do
    let d ← digit? base c
    let (ds, rest) := moreDigits base rest
    return (d :: ds, rest)

def ofDigits (base : Nat) (ds : List Nat) : Nat := ds.foldl (fun n d => n * base + d) 0

/-- The sign of a number, and what follows it. -/
def sign (cs : List Char) : Bool × List Char :=
  match cs with
  | '-' :: rest => (true, rest)
  | '+' :: rest => (false, rest)
  | cs => (false, cs)

/-- The digits of a decimal number, of which zero alone starts with a zero. -/
def decimalDigits? (cs : List Char) : Option (List Nat × List Char) :=
  match cs with
  | '0' :: rest => some ([0], rest)
  | cs => digits? 10 cs

/-- Whether 64 bits hold a number with a sign. -/
def inWord (n : Int) : Bool :=
  decide (-0x8000000000000000 ≤ n) && decide (n < 0x8000000000000000)

/-- Whether `significand * 10 ^ exponent` rounds to infinity in a binary format of 64 bits. -/
def isInfinite (significand : Nat) (exponent : Int) : Bool :=
  let digits : Int := (Nat.toDigits 10 significand).length
  if significand = 0 || decide (digits + exponent < 300) then false
  else if decide (400 < digits + exponent) then true
  else
    decide
      ((Nat.pow 2 1024 - Nat.pow 2 970) * Nat.pow 10 (-exponent).toNat ≤
        significand * Nat.pow 10 exponent.toNat)

/-- The fraction of a float: a point and digits. -/
def fraction? (cs : List Char) : Option (List Nat × List Char) :=
  match cs with
  | '.' :: rest => digits? 10 rest
  | _ => none

/-- The exponent of a float. -/
def exponent? (cs : List Char) : Option (Int × List Char) :=
  match cs with
  | c :: rest =>
    if c == 'e' || c == 'E' then do
      let (negative, rest) := sign rest
      let (ds, rest) ← digits? 10 rest
      return (if negative then -(ofDigits 10 ds : Int) else ofDigits 10 ds, rest)
    else none
  | [] => none

/-- A float or an integer in decimal digits. -/
def decimal? (cs : List Char) : Option (Toml × List Char) := do
  let (negative, cs) := sign cs
  let (whole, cs) ← decimalDigits? cs
  let (fraction, afterFraction) := (fraction? cs).getD ([], cs)
  let (exponent, rest) := (exponent? afterFraction).getD (0, afterFraction)
  if rest.length == cs.length then
    let n : Int := ofDigits 10 whole
    let n := if negative then -n else n
    if inWord n then return (.integer n, cs) else none
  else
    let significand := ofDigits 10 (whole ++ fraction)
    if !negative && isInfinite significand (exponent - fraction.length) then none
    else return (.float, rest)

/-- An integer in a base that its first two characters give. -/
def inBase? (base : Nat) (cs : List Char) : Option (Toml × List Char) := do
  let (ds, rest) ← digits? base cs
  let n : Int := ofDigits base ds
  if inWord n then return (.integer n, rest) else none

/-! ### Dates and times -/

/-- Exactly so many digits. -/
def fixed? (count : Nat) (cs : List Char) : Option (Nat × List Char) :=
  let ds := cs.take count
  if ds.length == count && ds.all Char.isDigit then
    some (ds.foldl (fun n c => n * 10 + (c.toNat - '0'.toNat)) 0, cs.drop count)
  else none

/-- So many digits of a number between two bounds. -/
def bounded? (count low high : Nat) (cs : List Char) : Option (Nat × List Char) := do
  let (n, rest) ← fixed? count cs
  if low ≤ n ∧ n ≤ high then return (n, rest) else none

def expect? (c : Char) (cs : List Char) : Option (List Char) :=
  match cs with
  | d :: rest => if d == c then some rest else none
  | [] => none

def isLeap (year : Nat) : Bool := (year % 4 == 0 && year % 100 != 0) || year % 400 == 0

def daysIn (year month : Nat) : Nat :=
  if month = 2 then if isLeap year then 29 else 28
  else if month = 4 ∨ month = 6 ∨ month = 9 ∨ month = 11 then 30
  else 31

/-- What follows a date. -/
def date? (cs : List Char) : Option (List Char) := do
  let (year, cs) ← fixed? 4 cs
  let cs ← expect? '-' cs
  let (month, cs) ← bounded? 2 1 12 cs
  let cs ← expect? '-' cs
  let (_, cs) ← bounded? 2 1 (daysIn year month) cs
  return cs

/-- What follows the hour and minute of a time. -/
def minutes? (cs : List Char) : Option (List Char) := do
  let (_, cs) ← bounded? 2 0 23 cs
  let cs ← expect? ':' cs
  let (_, cs) ← bounded? 2 0 59 cs
  return cs

/-- What follows a time of day, to the second or finer. -/
def time? (cs : List Char) : Option (List Char) := do
  let cs ← minutes? cs
  let cs ← expect? ':' cs
  let (_, cs) ← bounded? 2 0 60 cs
  match cs with
  | '.' :: rest =>
    let ds := rest.takeWhile Char.isDigit
    if ds.isEmpty then return cs else return rest.drop ds.length
  | cs => return cs

/-- What follows the offset of a time from that of Greenwich. -/
def offset? (cs : List Char) : Option (List Char) :=
  match cs with
  | c :: rest =>
    if c == 'Z' || c == 'z' then some rest
    else if c == '+' || c == '-' then minutes? rest
    else none
  | [] => none

/-- What follows the time of day and offset of a date, if it has them. -/
def timeOfDate (cs : List Char) : List Char :=
  match cs with
  | c :: rest =>
    if c == 'T' || c == 't' || c == ' ' then
      match time? rest with
      | some after => (offset? after).getD after
      | none => cs
    else cs
  | [] => cs

/-- A date with or without a time, or a time. -/
def datetime? (cs : List Char) : Option (Toml × List Char) :=
  match date? cs with
  | some rest => some (.datetime, timeOfDate rest)
  | none => (time? cs).map (.datetime, ·)

/-- A number, date or time that starts with a digit or a sign. -/
def number? (cs : List Char) : Option (Toml × List Char) :=
  match datetime? cs with
  | some found => some found
  | none =>
    match cs with
    | '0' :: 'x' :: rest => inBase? 16 rest
    | '0' :: 'o' :: rest => inBase? 8 rest
    | '0' :: 'b' :: rest => inBase? 2 rest
    | cs =>
      match (sign cs).2 with
      | 'i' :: 'n' :: 'f' :: rest => some (.float, rest)
      | 'n' :: 'a' :: 'n' :: rest => some (.float, rest)
      | _ => decimal? cs

end EntityGen.Toml
