import Lexical.Decimal.Read
import Lexical.Json.Reader

/-! Numbers of a JSON text. A whole number within 64 bits is exact; any other number is a float made
of as many leading digits as fit in 64 bits, scaled by a power of ten.
-/

namespace Lexical.Json

/-- A number that was read. -/
inductive Number where
  | natural (value : Nat)
  | negative (magnitude : Nat)
  | float (value : Float)

/-- How a number is told. -/
def Number.found : Number → Found
  | natural value => .integer value
  | negative magnitude => .integer (-magnitude)
  | float value => .float value

/-- The power of ten as a float, up to the largest that there is. -/
def powerOfTen (exponent : Nat) : Float :=
  Float.ofScientific 1 false exponent

/-- The largest exponent of a power of ten that is a finite float. -/
def maxPower : Nat := 308

/-- A float divided by a power of ten, in as many steps as it takes, but no more than given. -/
def shrink : Nat → Float → Nat → Float
  | 0, value, _ => value
  | steps + 1, value, exponent =>
    if exponent ≤ maxPower then value / powerOfTen exponent
    else if value == 0 then value
    else shrink steps (value / powerOfTen maxPower) (exponent - maxPower)

/-- A significand scaled by a power of ten, if that is finite. -/
def scale (significand : Nat) (exponent : Int) : Option Float :=
  let value := Float.ofNat significand
  if exponent < 0 then some (shrink 4 value exponent.natAbs)
  else if exponent.toNat ≤ maxPower then
    some (value * powerOfTen exponent.toNat) |>.filter fun result => !result.isInf
  else if significand = 0 then some value
  else none

/-- Appends digits to a number as long as it stays within a limit, and tells how many were left. -/
def appendDigits (limit value : Nat) : List Char → Nat × Nat
  | [] => (value, 0)
  | c :: rest =>
    let next := 10 * value + (c.toNat - '0'.toNat)
    if next ≤ limit then appendDigits limit next rest else (value, rest.length + 1)

/-- The largest significand. -/
def maxSignificand : Nat := 0xffffffffffffffff

/-- The largest magnitude of a negative integer that is kept as one. -/
def maxNegative : Nat := 0x8000000000000000

/-- The largest exponent that is counted. -/
def maxExponent : Nat := 0x7fffffff

namespace Reader

/-- Takes the digits that come next. -/
def digits : Reader (List Char) := do
  let found := (← get).takeWhile Char.isDigit
  modify (List.drop found.length)
  pure found

/-- Passes over a sign, if one comes next, and tells whether it is a minus. -/
def sign : Reader Bool := do
  match ← peek with
  | some '-' => skip *> pure true
  | some '+' => skip *> pure false
  | _ => pure false

/-- The finite float of a sign, a significand and an exponent. -/
def finish (negative : Bool) (significand : Nat) (exponent : Int) : Reader Number :=
  match scale significand exponent with
  | some value => pure (.float (if negative then -value else value))
  | none => failHere .numberOutOfRange

/-- The float of what came before an exponent, and of the exponent behind its letter. -/
def exponentPart (negative : Bool) (significand : Nat) (exponent : Int) : Reader Number := do
  skip
  let down ← sign
  let start ← get
  let found ← digits
  let (value, unused) := appendDigits maxExponent 0 found
  if found.isEmpty then
    if start.isEmpty then failHere (.cutShort .value) else failNext .invalidNumber
  else if unused = 0 then
    finish negative significand (if down then exponent - value else exponent + value)
  else if significand ≠ 0 ∧ ¬down then
    failAt ⟨start.drop (found.length - unused + 1), 0⟩ .numberOutOfRange
  else finish negative 0 0

/-- The number of its whole part, and of what may follow that. -/
def afterWhole (negative : Bool) (significand unused : Nat) : Reader Number := do
  match ← peek with
  | some '.' =>
    skip
    let fraction ← digits
    if fraction.isEmpty then
      if (← get).isEmpty then failHere (.cutShort .value) else failNext .invalidNumber
    else
      let (significand, left) :=
        if unused = 0 then appendDigits maxSignificand significand fraction
        else (significand, fraction.length)
      let exponent : Int := unused - (fraction.length - left : Nat)
      match ← peek with
      | some 'e' | some 'E' => exponentPart negative significand exponent
      | _ => finish negative significand exponent
  | some 'e' | some 'E' => exponentPart negative significand unused
  | _ =>
    if unused ≠ 0 then finish negative significand unused
    else if ¬negative then pure (.natural significand)
    else if 0 < significand ∧ significand ≤ maxNegative then pure (.negative significand)
    else finish negative significand 0

/-- A number behind its sign. Only a zero may begin with a zero. -/
def number (negative : Bool) : Reader Number := do
  match ← get with
  | [] => failHere (.cutShort .value)
  | '0' :: rest =>
    skip
    if (rest.head?.any Char.isDigit) then failNext .invalidNumber else afterWhole negative 0 0
  | c :: _ =>
    if c.isDigit then
      let (significand, unused) := appendDigits maxSignificand 0 (← digits)
      afterWhole negative significand unused
    else failNext .invalidNumber

/-- Passes over the exponent of a number behind its letter. -/
def skipExponent : Reader Unit := do
  skip
  discard sign
  if (← digits).isEmpty then failNext .invalidNumber

/-- Passes over what may follow the whole part of a number. -/
def skipAfterWhole : Reader Unit := do
  match ← peek with
  | some '.' =>
    skip
    if (← digits).isEmpty then failNext .invalidNumber
    match ← peek with
    | some 'e' | some 'E' => skipExponent
    | _ => pure ()
  | some 'e' | some 'E' => skipExponent
  | _ => pure ()

/-- Passes over a number behind its sign, whatever its size. -/
def skipNumber : Reader Unit := do
  match ← get with
  | '0' :: rest =>
    skip
    if (rest.head?.any Char.isDigit) then failNext .invalidNumber else skipAfterWhole
  | _ => if (← digits).isEmpty then failNext .invalidNumber else skipAfterWhole

end Reader

end Lexical.Json
