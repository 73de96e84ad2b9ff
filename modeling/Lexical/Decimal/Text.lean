import Lexical.Decimal.Shortest

/-! The texts of doubles. Both hold the shortest digits that read back: one always writes them out
in full, the other goes over to an exponent of ten for large and small numbers.
-/

namespace Lexical.Decimal

/-- So many zeros. -/
def zeros (count : Nat) : List Char := List.replicate count '0'

/-- The digits written out, with a point only where a fraction follows. -/
def Digits.positional (value : Digits) : List Char :=
  let digits := Nat.toDigits 10 value.digits
  if 0 ≤ value.exponent then digits ++ zeros value.exponent.toNat
  else
    let places := (-value.exponent).toNat
    if places < digits.length then
      digits.take (digits.length - places) ++ '.' :: digits.drop (digits.length - places)
    else '0' :: '.' :: zeros (places - digits.length) ++ digits

/-- An exponent with its sign. -/
def exponentText (exponent : Int) : List Char :=
  (if exponent < 0 then '-' else '+') :: exponent.natAbs.repr.toList

/-- The digits with a point and at least one digit after it from `10⁻⁵` up to `10¹⁶`, and else with
the point behind the first digit, if more follow, and an exponent.
-/
def Digits.scientific (value : Digits) : List Char :=
  let digits := Nat.toDigits 10 value.digits
  let point := digits.length + value.exponent
  if -5 < point ∧ point ≤ 16 then
    if 0 ≤ value.exponent then value.positional ++ ['.', '0'] else value.positional
  else
    let exponent := 'e' :: exponentText (point - 1)
    match digits with
    | first :: second :: rest => first :: '.' :: second :: rest ++ exponent
    | _ => digits ++ exponent

/-- The bit of a double that is its sign. -/
def signBit : Nat := 0x8000000000000000

/-- A double as text, by the tie of its digits, their form and the text of zero. -/
def floatText (tie : Tie) (form : Digits → List Char) (zero : List Char) (x : Float) : String :=
  let bits := x.toBits.toNat
  let magnitude := bits % signBit
  if x.isNaN then "NaN"
  else
    let unsigned :=
      if x.isInf then "inf".toList
      else if magnitude = 0 then zero
      else form (shortest tie magnitude)
    String.ofList (if signBit ≤ bits then '-' :: unsigned else unsigned)

/-- The double in full: whole numbers without a point, never an exponent, and zero with its sign. -/
def fullText (x : Float) : String :=
  floatText .up Digits.positional ['0'] x

/-- The double with a fraction or an exponent always shown. -/
def briefText (x : Float) : String :=
  floatText .toEven Digits.scientific ['0', '.', '0'] x

end Lexical.Decimal
