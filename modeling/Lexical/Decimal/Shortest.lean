/-! The shortest decimal that reads back as a given double. A double stands for every real number
that rounds to it; the decimal is the one with the fewest digits among these, and of several such
the nearest to the double itself, where a tie is settled by rule.
-/

namespace Lexical.Decimal

/-- A finite, positive double as `mantissa × 2 ^ exponent`. The gap to the next smaller double is
half the gap to the next larger one where `narrow` holds.
-/
structure Binary where
  mantissa : Nat
  exponent : Int
  narrow : Bool
deriving DecidableEq, Repr

/-- The leading bit of a mantissa, which is there but for the smallest doubles and is not stored. -/
def leadingBit : Nat := 0x10000000000000

/-- The parts of a finite, positive double, from its bits without the sign. -/
def Binary.ofBits (bits : Nat) : Binary :=
  let biased : Nat := bits / leadingBit
  let fraction : Nat := bits % leadingBit
  if biased = 0 then ⟨fraction, -1074, false⟩
  else ⟨leadingBit + fraction, (biased : Int) - 1075, fraction == 0 && 1 < biased⟩

/-- What becomes of a number halfway between two decimals. -/
inductive Tie where
  | up
  | toEven
deriving DecidableEq, Repr

/-- A positive decimal: its digits as a whole number, scaled by a power of ten. -/
structure Digits where
  digits : Nat
  exponent : Int
deriving DecidableEq, Repr

/-- The same number without trailing zeros among at most so many digits. -/
def Digits.trim : Nat → Digits → Digits
  | 0, value => value
  | fuel + 1, value =>
    if value.digits % 10 = 0 then Digits.trim fuel ⟨value.digits / 10, value.exponent + 1⟩
    else value

/-- A positive fraction with the bounds of the numbers that round to it, over one denominator. -/
structure Interval where
  lower : Nat
  value : Nat
  upper : Nat
  denominator : Nat
  closed : Bool
deriving DecidableEq, Repr

/-- The numbers that round to a double: halfway to its neighbours, where the ends belong to the
double with the even mantissa.
-/
def Binary.interval (x : Binary) : Interval :=
  let scale := Nat.pow 2 (x.exponent - 2).toNat
  { lower := (4 * x.mantissa - if x.narrow then 1 else 2) * scale
    value := 4 * x.mantissa * scale
    upper := (4 * x.mantissa + 2) * scale
    denominator := Nat.pow 2 (2 - x.exponent).toNat
    closed := x.mantissa % 2 == 0 }

/-- How many times a fraction below one has to grow tenfold to reach one, at most so many times. -/
def zerosAfterPoint (numerator denominator : Nat) : Nat → Nat
  | 0 => 0
  | fuel + 1 =>
    if denominator ≤ numerator then 0 else zerosAfterPoint (10 * numerator) denominator fuel + 1

/-- The power of ten just above the value: the number of digits before its point, or else minus the
number of zeros after it.
-/
def Interval.magnitude (x : Interval) : Int :=
  if x.denominator ≤ x.value then (Nat.toDigits 10 (x.value / x.denominator)).length
  else 1 - zerosAfterPoint x.value x.denominator 400

/-- The nearer to the value of its two neighbours among the multiples of a power of ten, if one of
them lies in the interval.
-/
def Interval.onGrid? (x : Interval) (tie : Tie) (exponent : Int) : Option Digits :=
  let unit := Nat.pow 10 exponent.toNat * x.denominator
  let refine := Nat.pow 10 (-exponent).toNat
  let value := x.value * refine
  let below := value / unit
  let within (digits : Nat) : Bool :=
    let number := digits * unit
    if x.closed then x.lower * refine ≤ number && number ≤ x.upper * refine
    else x.lower * refine < number && number < x.upper * refine
  match within below, within (below + 1) with
  | false, false => none
  | true, false => some ⟨below, exponent⟩
  | false, true => some ⟨below + 1, exponent⟩
  | true, true =>
    let twice := 2 * (value - below * unit)
    let down := twice < unit || (twice == unit && tie == .toEven && below % 2 == 0)
    some ⟨if down then below else below + 1, exponent⟩

/-- Tries ever finer grids, from the given number of digits on; seventeen digits always suffice. -/
def Interval.search (x : Interval) (tie : Tie) (magnitude : Int) (digits : Nat) : Nat → Digits
  | 0 => ⟨0, 0⟩
  | fuel + 1 =>
    match x.onGrid? tie (magnitude - digits) with
    | some found => found
    | none => x.search tie magnitude (digits + 1) fuel

/-- The shortest decimal that reads back as the finite, positive double with these bits. -/
def shortest (tie : Tie) (bits : Nat) : Digits :=
  let x := (Binary.ofBits bits).interval
  (x.search tie x.magnitude 1 17).trim 20

end Lexical.Decimal
