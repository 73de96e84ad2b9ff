import Lexical.Pattern.Basic
import Lexical.Pattern.Mode
import Lexical.Pattern.Parser
import Lexical.Pattern.Program

/-! Patterns from their text. -/

namespace Lexical.Pattern

/-- The room that a compiled program may take, in bytes. -/
def maxWeight : Nat := 10 * 1024 * 1024

/-- The pattern that a text stands for. -/
def ofText (text : String) : Except Fault Pattern := do
  let expression ← Expr.ofText text
  let (meaning, _) ← expression.meaning {}
  if maxWeight < meaning.weight then .error (.tooLarge maxWeight)
  else
    let code := meaning.program
    pure ⟨text, extent code, extent_le_length code⟩

/-- The pattern that a text stands for, or what is said of its fault. -/
def compile : Compiler :=
  fun text => (ofText text).mapError (·.message text)

/-- The pattern that a text stands for at the start of an input, or what is said of its fault. -/
def anchoredOfText (text : String) : Except String Pattern :=
  compile (anchored text)

end Lexical.Pattern
