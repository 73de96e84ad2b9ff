import Lexical.Error
import Lexical.Scan

/-! Rules, the units of recognition. A rule says whether it can start at a cursor, which it should
find out by looking alone, and consumes input there if it is chosen.
-/

namespace Lexical

/-- A named way to recognise a piece of input. Consuming gives a token, or none for input that is to
be dropped, or fails.
-/
structure Rule where
  name : String
  canStart : Scan Bool
  consume : Scan (Except Failure (Option Token))

namespace Rule

/-- A token as the answer of a rule. -/
def accept (kind : Kind) (value : Value) : Except Failure (Option Token) :=
  .ok (some { kind, value })

/-- Dropped input as the answer of a rule. -/
def drop : Except Failure (Option Token) :=
  .ok none

/-- An error without a place as the answer of a rule. -/
def reject (cause : Error.Cause) : Except Failure (Option Token) :=
  .error (.error { cause })

end Rule

end Lexical
