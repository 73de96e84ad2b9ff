/-! Integers written in a base up to 36, within 64 bits and a sign. Digits are read from the left,
so of two faults the one that comes first is reported.
-/

namespace Lexical.Numeral

/-- Why a text is no integer of the range. -/
inductive Fault where
  | empty
  | invalidDigit
  | tooLarge
  | tooSmall
deriving DecidableEq, Repr

/-- What is said of a fault. -/
def Fault.message : Fault → String
  | empty => "cannot parse integer from empty string"
  | invalidDigit => "invalid digit found in string"
  | tooLarge => "number too large to fit in target type"
  | tooSmall => "number too small to fit in target type"

/-- The value of a digit or of an ASCII letter of either case, below the base. -/
def digit? (base : Nat) (c : Char) : Option Nat :=
  let value :=
    if '0' ≤ c ∧ c ≤ '9' then some (c.toNat - '0'.toNat)
    else if 'a' ≤ c ∧ c ≤ 'z' then some (c.toNat - 'a'.toNat + 10)
    else if 'A' ≤ c ∧ c ≤ 'Z' then some (c.toNat - 'A'.toNat + 10)
    else none
  value.filter (· < base)

/-- Appends the digits to a magnitude that may grow to the limit, or else overflows. -/
def readDigits (base limit : Nat) (overflow : Fault) : Nat → List Char → Except Fault Nat
  | value, [] => .ok value
  | value, c :: rest =>
    match digit? base c with
    | none => .error .invalidDigit
    | some digit =>
      if base * value + digit ≤ limit then
        readDigits base limit overflow (base * value + digit) rest
      else .error overflow

/-- The magnitude of the largest 64-bit integer. -/
def maxMagnitude : Nat := 0x7fffffffffffffff

/-- The magnitude of the smallest 64-bit integer. -/
def minMagnitude : Nat := 0x8000000000000000

/-- Reads an optional sign and at least one digit. -/
def readInt (base : Nat) : List Char → Except Fault Int64
  | [] => .error .empty
  | ['+'] | ['-'] => .error .invalidDigit
  | '+' :: digits => Int64.ofNat <$> readDigits base maxMagnitude .tooLarge 0 digits
  | '-' :: digits =>
    (fun value : Nat => Int64.ofInt (-value)) <$> readDigits base minMagnitude .tooSmall 0 digits
  | digits => Int64.ofNat <$> readDigits base maxMagnitude .tooLarge 0 digits

end Lexical.Numeral
