import Lexical.Rule

/-! Quoted text in source text. A backslash lets the character behind it stand for another one, and
keeps a quote from ending the text.
-/

namespace Lexical.Recognizer

/-- What the characters that may follow a backslash stand for. -/
def escapes : List (Char × Char) :=
  [('\\', '\\'), ('\'', '\''), ('"', '"'), ('n', '\n'), ('r', '\r'), ('t', '\t')]

/-- What a character behind a backslash stands for. -/
def unescape? (c : Char) : Option Char :=
  escapes.lookup c

/-- How far quoted text has been read: whether a backslash came last, and the characters that the
text stands for so far, the latest first.
-/
structure QuotedState where
  escaped : Bool := false
  soFar : List Char := []

/-- The text read so far. -/
def QuotedState.text (state : QuotedState) : String :=
  String.ofList state.soFar.reverse

/-- What the next character does to quoted text. -/
def quotedMove (quote : Char) (state : QuotedState) (c : Char)
    : Move QuotedState (Except Error.Cause String) :=
  if state.escaped then
    match unescape? c with
    | some meant => .take ⟨false, meant :: state.soFar⟩
    | none => .last (.error (.unknownEscape c state.text))
  else if c = quote then .last (.ok state.text)
  else if c = '\\' then .take { state with escaped := true }
  else .take { state with soFar := c :: state.soFar }

/-- Consumes what follows an opening quote, up to the closing one. Where the text runs out, the
closing quote is asked for once more, unless a backslash came last.
-/
def takeQuoted (quote : Char) : Scan (Except Error.Cause String) := do
  match ← Scan.walk (fun state c => (quotedMove quote state c).map Sum.inl) Sum.inr {} with
  | .inl result => pure result
  | .inr state =>
    if !state.escaped then
      discard Scan.next
    pure (.error (.unterminatedString state.text))

/-- Consumes quoted text with its quotes. -/
def consumeQuoted (quote : Char) (kind : Kind) : Scan (Except Failure (Option Token)) := do
  discard Scan.next
  match ← takeQuoted quote with
  | .error cause => pure (Rule.reject cause)
  | .ok text => pure (Rule.accept kind (.text text))

end Lexical.Recognizer
