import Lexical.Rule
import Lexical.Text.Quoted

/-! The tokenizer: an ordered list of rules. Where several rules can start, the first one in the
list consumes the input, and the input is taken apart into lexemes until it ends or something
fails.
-/

namespace Lexical

/-- A piece of input that one rule consumed: the rule, where the piece starts, how many characters
it has, and the token made of it unless it was dropped.
-/
structure Lexeme where
  rule : String
  start : Position
  length : Nat
  token? : Option Token

/-- How a session ended. -/
inductive Ending where
  /-- The input ended. -/
  | finished
  /-- No rule can start at the next character. -/
  | unexpected (character : Char) (place : Position)
  /-- A rule could not make sense of its input. -/
  | failed (rule : String) (error : Error)
  /-- A rule broke its contract. -/
  | breached (breach : Breach)

/-- What became of an input: the lexemes in order, and how it ended. -/
structure Session where
  lexemes : List Lexeme
  ending : Ending

namespace Session

/-- The tokens of the lexemes in order. -/
def tokens (session : Session) : List Token :=
  session.lexemes.filterMap Lexeme.token?

/-- The tokens, or else what kept the input from ending. -/
def outcome (session : Session) : Except Failure (List Token) :=
  match session.ending with
  | .finished => .ok session.tokens
  | .unexpected character place => .error (.error ⟨.unexpectedCharacter character, some place⟩)
  | .failed _ error => .error (.error error)
  | .breached breach => .error (.breach breach)

end Session

/-- Rules in the order of their precedence. -/
structure Tokenizer where
  rules : List Rule

namespace Tokenizer

/-- The names of the rules in order. -/
def ruleNames (tokenizer : Tokenizer) : List String :=
  tokenizer.rules.map Rule.name

/-- The names of the rules as a quoted list. -/
def describe (tokenizer : Tokenizer) : String :=
  Text.quotedList tokenizer.ruleNames

/-- The first of the rules that can start at the cursor. -/
def firstStarting : List Rule → Scan (Option Rule)
  | [] => pure none
  | rule :: others => do
    if ← rule.canStart then pure (some rule) else firstStarting others

/-- What happens at one place of the input. -/
inductive Round where
  | ended
  | unexpected (character : Char)
  | answered (rule : Rule) (answer : Except Failure (Option Token))

/-- Lets the first rule that can start consume input, if there is input left. -/
def round (tokenizer : Tokenizer) : Scan Round := do
  match ← Scan.peek 0 with
  | none => pure .ended
  | some character =>
    match ← firstStarting tokenizer.rules with
    | none => pure (.unexpected character)
    | some rule => Round.answered rule <$> rule.consume

/-- Puts the lexemes of all further rounds before those already found, the latest first, until the
input ends, a rule fails or a rule consumes nothing.
-/
def sessionOnto (tokenizer : Tokenizer) (found : List Lexeme) (c : Cursor) : Session × Cursor :=
  let step := tokenizer.round.run c
  let rest := step.2
  let stop (ending : Ending) := (⟨found.reverse, ending⟩, rest)
  match step.1 with
  | .ended => stop .finished
  | .unexpected character => stop (.unexpected character c.origin)
  | .answered rule (.error (.error error)) => stop (.failed rule.name (error.orAt c.origin))
  | .answered _ (.error (.breach breach)) => stop (.breached breach)
  | .answered rule (.ok token?) =>
    if rest.consumed = c.consumed then stop (.breached (.stalled rule.name c.origin))
    else
      let lexeme :=
        ⟨rule.name, c.origin, rest.consumed - c.consumed, token?.map (Token.orAt · c.origin)⟩
      tokenizer.sessionOnto (lexeme :: found) rest
termination_by c.remaining.length
decreasing_by exact (tokenizer.round.reaches c).remaining_length_lt ‹_›

/-- Takes apart what remains at a cursor, and leaves the cursor where the session ended. -/
def session (tokenizer : Tokenizer) (c : Cursor) : Session × Cursor :=
  tokenizer.sessionOnto [] c

/-- The tokens of what remains at a cursor. -/
def tokenize (tokenizer : Tokenizer) (c : Cursor) : Except Failure (List Token) × Cursor :=
  let (session, rest) := tokenizer.session c
  (session.outcome, rest)

/-- The session over a text. -/
def sessionOf (tokenizer : Tokenizer) (name text : String) : Session :=
  (tokenizer.session (Cursor.ofText name text)).1

/-- The tokens of a text. -/
def tokenizeText (tokenizer : Tokenizer) (name text : String) : Except Failure (List Token) :=
  (tokenizer.sessionOf name text).outcome

end Tokenizer

end Lexical
