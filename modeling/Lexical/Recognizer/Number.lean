import Lexical.Decimal.Read
import Lexical.Numeral
import Lexical.Rule
import Lexical.Text.Letter

/-! Numbers in source text. `0b`, `0o` and `0x` announce an integer in base 2, 8 or 16; without them
a sign may come first, and a point makes the number a float. Underscores between digits say nothing.
-/

namespace Lexical.Recognizer

/-- The characters that a number goes on with, whether or not they make sense there. -/
def isNumberPart (c : Char) : Bool :=
  Text.isAlphanumeric c || c == '.' || c == '_'

/-- Whether the character is the sign of a number. -/
def isSign (c : Char) : Bool :=
  c == '+' || c == '-'

/-- The base that a letter announces behind a zero. -/
def announcedBase? : Char → Option Nat
  | 'b' => some 2
  | 'o' => some 8
  | 'x' => some 16
  | _ => none

/-- A number as written: the characters that announce its base, and its digits with their sign and
without underscores.
-/
structure Written where
  header : List Char
  base : Nat
  digits : List Char
deriving DecidableEq, Repr

/-- The whole number as written. -/
def Written.literal (number : Written) : String :=
  String.ofList (number.header ++ number.digits)

/-- What the number stands for: a float where the base is ten and there is a point, else an
integer. The other possibilities are that it has no digits or that they cannot be read.
-/
def Written.value (number : Written) : Except Error.Cause Value :=
  if number.digits.isEmpty then .error (.invalidNumber number.literal)
  else if number.base = 10 ∧ '.' ∈ number.digits then
    match Decimal.read number.digits with
    | .ok value => .ok (.float value)
    | .error fault => .error (.unreadableNumber number.literal fault.message)
  else
    match Numeral.readInt number.base number.digits with
    | .ok value => .ok (.int value)
    | .error fault => .error (.unreadableNumber number.literal fault.message)

/-- A number can start at a digit, or at a sign with a digit behind it. -/
def numberStarts : Scan Bool := do
  match ← Scan.peek 0 with
  | none => pure false
  | some c =>
    if Text.isAsciiDigit c then pure true
    else if isSign c then Option.any Text.isAsciiDigit <$> Scan.peek 1
    else pure false

/-- The base that the next two characters announce, if they are a zero and such a letter. Whatever
the first one is, the second one is looked at.
-/
def announced : Scan (Option Nat) := do
  let first ← Scan.peek 0
  let second ← Scan.peek 1
  match first, second with
  | some '0', some letter => pure (announcedBase? letter)
  | _, _ => pure none

/-- Consumes a sign, if one comes next. -/
def takeSign : Scan (List Char) := do
  if ← Scan.seesWhere isSign then Scan.take 1 else pure []

/-- Consumes a number: its announcement or its sign, and as many characters as it can go on with. -/
def takeNumber : Scan Written := do
  match ← announced with
  | some base =>
    let header ← Scan.take 2
    let body ← Scan.takeWhile isNumberPart
    pure ⟨header, base, body.filter (· != '_')⟩
  | none =>
    let sign ← takeSign
    let body ← Scan.takeWhile isNumberPart
    pure ⟨[], 10, sign ++ body.filter (· != '_')⟩

/-- Numbers, with a kind for integers and one for floats. -/
def consumeNumber (integerKind floatKind : Kind) : Scan (Except Failure (Option Token)) :=
  (fun number =>
    match number.value with
    | .error cause => Rule.reject cause
    | .ok (.int value) => Rule.accept integerKind (.int value)
    | .ok value => Rule.accept floatKind value) <$> takeNumber

end Lexical.Recognizer
