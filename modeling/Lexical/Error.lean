import Lexical.Text.Quoted
import Lexical.Token

/-! What goes wrong. An error is a cause in the input, in the use of tokens or in a configuration,
with a place once one is known; a breach is a rule or a caller that breaks its contract.
-/

namespace Lexical

namespace Error

/-- Why reading characters or tokens, or setting up the rules, failed. -/
inductive Cause where
  | unexpectedCharacter (character : Char)
  | emptyIdentifier
  | invalidNumber (literal : String)
  | unreadableNumber (literal reason : String)
  | unknownEscape (escape : Char) (soFar : String)
  | unterminatedString (soFar : String)
  | runeMismatch (expected : Char) (received : Option Char)
  | literalMismatch (expected : String) (received : Option Char) (index : Nat)
  | unexpectedEnd (expected : Kind)
  | unexpectedToken (expected received : Kind) (value : Value)
  | unexpectedValue (expected : Kind) (expectedValue : Value) (received : Kind) (value : Value)
  | invalidConfig (message : String)
  | custom (message : String)

/-- A character in single quotes, or the words for the end of the input. -/
def describe : Option Char → String
  | some c => "'" ++ String.singleton c ++ "'"
  | none => "end of input"

/-- What is said of a cause. -/
def Cause.message : Cause → String
  | unexpectedCharacter c => "unexpected character '" ++ String.singleton c ++ "'"
  | emptyIdentifier => "expected an identifier but got an empty identifier"
  | invalidNumber literal => "expected a number but got '" ++ literal ++ "'"
  | unreadableNumber literal reason => "invalid number literal '" ++ literal ++ "': " ++ reason
  | unknownEscape escape soFar =>
    "unknown escape '" ++ String.singleton escape ++ "' while tokenizing string "
      ++ Text.quoted soFar
  | unterminatedString soFar => "unterminated string " ++ Text.quoted soFar
  | runeMismatch expected received =>
    "expected a '" ++ String.singleton expected ++ "' rune but got " ++ describe received
  | literalMismatch expected received index =>
    "expected word '" ++ expected ++ "' but got " ++ describe received ++ " at offset "
      ++ index.repr
  | unexpectedEnd expected => "expected a '" ++ expected.name ++ "' token but got end of input"
  | unexpectedToken expected received value =>
    "expected a '" ++ expected.name ++ "' token but got a '" ++ received.name
      ++ "' token with value '" ++ value.display ++ "'"
  | unexpectedValue expected expectedValue received value =>
    "expected a '" ++ expected.name ++ "' token with value '" ++ expectedValue.display
      ++ "' but got a '" ++ received.name ++ "' token with value '" ++ value.display ++ "'"
  | invalidConfig message => "invalid tokenizer configuration: " ++ message
  | custom message => message

/-- The name of a cause, for programs that tell causes apart. -/
def Cause.name : Cause → String
  | unexpectedCharacter _ => "UnexpectedCharacter"
  | emptyIdentifier => "EmptyIdentifier"
  | invalidNumber _ => "InvalidNumber"
  | unreadableNumber _ _ => "NumberParseError"
  | unknownEscape _ _ => "UnknownEscape"
  | unterminatedString _ => "UnterminatedString"
  | runeMismatch _ _ => "RuneMismatch"
  | literalMismatch _ _ _ => "LiteralMismatch"
  | unexpectedEnd _ => "UnexpectedEndOfInput"
  | unexpectedToken _ _ _ => "UnexpectedToken"
  | unexpectedValue _ _ _ _ => "UnexpectedTokenValue"
  | invalidConfig _ => "InvalidConfig"
  | custom _ => "Custom"

/-- What may help the author of the input, for causes that he can do something about. -/
def Cause.tip? : Cause → Option String
  | unexpectedCharacter c =>
    some ("No rule can start at `" ++ Text.asciiEscape c ++ "`, is a rule for it missing?")
  | invalidNumber _ => some "A base prefix must be followed by at least one digit"
  | unreadableNumber literal _ =>
    some ("Invalid number: `" ++ literal ++ "`, is it above the integer limit or malformed?")
  | unknownEscape _ _ => some "Supported escapes are \\\\, \\', \\\", \\n, \\r and \\t"
  | unterminatedString _ => some "Did you forget the closing quote?"
  | unexpectedEnd expected => some ("Input ended while expecting `" ++ expected.name ++ "`")
  | _ => none

/-- Whether only a rule that is run where it cannot start gives this cause. -/
def Cause.isLogic : Cause → Bool
  | runeMismatch _ _ | literalMismatch _ _ _ => true
  | _ => false

end Error

/-- A cause and the place where it arose, once that is known. -/
structure Error where
  cause : Error.Cause
  place? : Option Position := none

namespace Error

/-- Gives the error a place unless it has one. -/
def orAt (error : Error) (place : Position) : Error :=
  { error with place? := error.place?.or (some place) }

/-- What is said of the error, with its place. -/
def display (error : Error) : String :=
  match error.place? with
  | some place => error.cause.message ++ " at " ++ place.display
  | none => error.cause.message

end Error

/-- A contract that a rule or a caller did not keep. -/
inductive Breach where
  | stalled (rule : String) (place : Position)
  | notBlank (found : Option Char) (place : Position)
  | emptyLiteral
  | emptyCommentPrefix
  | splicePastEnd (index remaining : Nat)
deriving DecidableEq, Repr

/-- What is said of a breach. -/
def Breach.message : Breach → String
  | stalled rule place =>
    "rule `" ++ rule ++ "` matched at " ++ place.display ++ " without consuming any input"
  | notBlank found place =>
    let shown :=
      match found with
      | some c => "Some(" ++ Text.quotedChar c ++ ")"
      | none => "None"
    "WhitespaceRule consumed " ++ shown ++ " at " ++ place.display
      ++ "; can_start must hold before consume"
  | emptyLiteral => "cannot create a LiteralRule with an empty string to match on"
  | emptyCommentPrefix => "a line comment needs a non-empty prefix"
  | splicePastEnd index remaining =>
    "splice index " ++ index.repr ++ " is past the " ++ remaining.repr ++ " remaining tokens"

/-- Why a rule gives no answer: the input is at fault, or the rule. -/
inductive Failure where
  | error (error : Error)
  | breach (breach : Breach)

end Lexical
