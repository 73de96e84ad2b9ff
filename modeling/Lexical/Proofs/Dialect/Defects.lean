import Lexical.Proofs.Dialect.Symbols
import Lexical.Proofs.Text.ByteOrder

/-! When a dialect has a tokenizer, and which one. Its parts are looked at in order, so that of
several defects the first is reported; without a defect the rules come in the order of the parts.
The constructors that breach on an empty text are never given one.
-/

namespace Lexical

-----------------------------------------------------------------------------------------
-- Steps that fail
-----------------------------------------------------------------------------------------

section Steps

variable {ε α β : Type} {fault : ε}

end Steps

namespace Dialect

-----------------------------------------------------------------------------------------
-- The parts and their rules
-----------------------------------------------------------------------------------------

/-- A pattern has a rule: it is skipped or has a kind, and it compiles. -/
structure PatternEntry.Sound (entry : PatternEntry) (compile : Pattern.Compiler) : Prop where
  named : entry.skip ∨ entry.kind? ≠ none
  compiles : ∃ pattern, compile (Pattern.anchored entry.regex) = .ok pattern

variable {dialect : Dialect} {compile : Pattern.Compiler} {entry : PatternEntry} {defect : Defect}

-----------------------------------------------------------------------------------------
-- Parts with and without defects
-----------------------------------------------------------------------------------------

/-- A defect as it is reported, without a place. -/
def Defect.failure (defect : Defect) : Failure :=
  .error { cause := .invalidConfig defect.message }

end Dialect

end Lexical
