/-! Reading a binary double from decimal text: an optional sign, then digits with at most one point
among or beside them and perhaps an exponent of ten, or one of the words for infinity and for no
number. The nearest double is taken.
-/

namespace Lexical.Decimal

/-- Why a text is no decimal number. -/
inductive Fault where
  | empty
  | malformed
deriving DecidableEq, Repr

/-- What is said of a fault. -/
def Fault.message : Fault → String
  | empty => "cannot parse float from empty string"
  | malformed => "invalid float literal"

/-- An unsigned decimal number before it is rounded: its digits as a whole number, scaled by a
power of ten.
-/
structure Scaled where
  digits : Nat
  exponent : Int
deriving DecidableEq, Repr

/-- The nearest double. A magnitude far outside the range of doubles is settled by its size alone.
-/
def Scaled.toFloat (value : Scaled) : Float :=
  if value.digits = 0 then 0
  else
    let magnitude := (Nat.toDigits 10 value.digits).length + value.exponent
    if 400 < magnitude then 1 / 0
    else if magnitude < -400 then 0
    else Float.ofScientific value.digits (value.exponent < 0) value.exponent.natAbs

/-- The value of a run of decimal digits. -/
def ofDigits (digits : List Char) : Nat :=
  digits.foldl (fun value c => 10 * value + (c.toNat - '0'.toNat)) 0

/-- Splits a text into a sign, true for minus, and what follows it. -/
def splitSign : List Char → Bool × List Char
  | '-' :: rest => (true, rest)
  | '+' :: rest => (false, rest)
  | rest => (false, rest)

/-- Reads what follows the digits: nothing, or an exponent of ten with an optional sign. -/
def readExponent? : List Char → Option Int
  | [] => some 0
  | mark :: rest =>
    let (negative, digits) := splitSign rest
    if (mark == 'e' || mark == 'E') && !digits.isEmpty && digits.all Char.isDigit then
      some (if negative then -ofDigits digits else ofDigits digits)
    else none

/-- Reads an unsigned number: digits before the point, after it, or both. -/
def readScaled? (text : List Char) : Option Scaled :=
  let whole := text.takeWhile Char.isDigit
  let afterWhole := text.dropWhile Char.isDigit
  let (fraction, rest) :=
    match afterWhole with
    | '.' :: afterPoint => (afterPoint.takeWhile Char.isDigit, afterPoint.dropWhile Char.isDigit)
    | _ => ([], afterWhole)
  if whole.isEmpty && fraction.isEmpty then none
  else
    (readExponent? rest).map fun exponent =>
      ⟨ofDigits (whole ++ fraction), exponent - fraction.length⟩

/-- Reads an unsigned number or one of the words that stand for a special value, in either case. -/
def readUnsigned? (text : List Char) : Option Float :=
  let word := String.ofList (text.map Char.toLower)
  if word = "inf" ∨ word = "infinity" then some (1 / 0)
  else if word = "nan" then some (0 / 0)
  else (readScaled? text).map Scaled.toFloat

/-- Reads a double with an optional sign. -/
def read (text : List Char) : Except Fault Float :=
  if text.isEmpty then .error .empty
  else
    let (negative, rest) := splitSign text
    match readUnsigned? rest with
    | none => .error .malformed
    | some value => .ok (if negative then -value else value)

end Lexical.Decimal
