import Lexical.Pattern.Basic
import Lexical.Recognizer.Number
import Lexical.Recognizer.QuotedText
import Lexical.Text.Blank

/-! The ready-made recognizers: blanks, words, numbers, quoted text, fixed characters and words,
line comments, and patterns. Each is a value, and stands for the rule that does its work.
-/

namespace Lexical

/-- A ready-made recognizer with its parameters. -/
inductive Recognizer where
  /-- Drops one blank. -/
  | blank
  /-- Words, where a keyword has a kind of its own; of two entries for a word the first counts. -/
  | word (kind : Kind) (keywords : List (String × Kind))
  /-- Numbers, with a kind for integers and one for floats. -/
  | number (integerKind floatKind : Kind)
  /-- Text between two copies of a quote. -/
  | quotedText (quote : Char) (kind : Kind)
  /-- One fixed character. -/
  | rune (kind : Kind) (character : Char)
  /-- One fixed text. -/
  | literal (kind : Kind) (text : String) (nonempty : text ≠ "")
  /-- Drops what begins with a mark, up to the end of the line. -/
  | lineComment (mark : String) (nonempty : mark ≠ "")
  /-- What a pattern matches, dropped if there is no kind for it. -/
  | pattern (kind? : Option Kind) (expression : Pattern) (window : Nat)

namespace Recognizer

/-- The width of a window where none is given. -/
def defaultWindow : Nat := 64

/-- Words without keywords. -/
def words : Recognizer := .word .identifier []

/-- Numbers of the usual kinds. -/
def numbers : Recognizer := .number .integer .float

/-- A fixed text, which must not be empty: it would match without consuming. -/
def literal? (kind : Kind) (text : String) : Except Breach Recognizer :=
  if h : text ≠ "" then .ok (.literal kind text h) else .error .emptyLiteral

/-- A line comment, whose mark must not be empty. -/
def lineComment? (mark : String) : Except Breach Recognizer :=
  if h : mark ≠ "" then .ok (.lineComment mark h) else .error .emptyCommentPrefix

/-- Whether a word can start with the character. -/
def isWordStart (c : Char) : Bool :=
  Text.isLetter c || c == '_'

/-- Whether a word can go on with the character. -/
def isWordPart (c : Char) : Bool :=
  Text.isAlphanumeric c || c == '_'

/-- The name of the rule: of fixed texts and patterns their text, of others their sort. -/
def name : Recognizer → String
  | blank => "ruletok::lexer::builtins::WhitespaceRule"
  | word _ _ => "ruletok::lexer::builtins::IdentifierRule"
  | number _ _ => "ruletok::lexer::builtins::NumberRule"
  | quotedText _ _ => "ruletok::lexer::builtins::QuotedStringRule"
  | rune _ _ => "ruletok::lexer::rules::RuneRule"
  | literal _ text _ => text
  | lineComment _ _ => "ruletok::lexer::builtins::LineCommentRule"
  | pattern _ expression _ => expression.source

/-- Whether the rule can start at a cursor. -/
def canStart : Recognizer → Scan Bool
  | blank => Scan.seesWhere Text.isBlank
  | word _ _ => Scan.seesWhere isWordStart
  | number _ _ => numberStarts
  | quotedText quote _ => Scan.sees quote
  | rune _ character => Scan.sees character
  | literal _ text _ => Scan.spells text.toList
  | lineComment mark _ => Scan.spells mark.toList
  | pattern _ expression window => Option.isSome <$> expression.measure (max window 1)

/-- Consumes a character that has to be a blank. -/
def consumeBlank : Scan (Except Failure (Option Token)) := do
  let found ← Scan.next
  if found.any Text.isBlank then pure Rule.drop
  else return .error (.breach (.notBlank found (← Scan.origin)))

/-- Consumes a word, of its own kind if it is a keyword. -/
def consumeWord (kind : Kind) (keywords : List (String × Kind))
    : Scan (Except Failure (Option Token)) := do
  let word ← Scan.takeWhile isWordPart
  if word.isEmpty then pure (Rule.reject .emptyIdentifier)
  else
    let word := String.ofList word
    pure (Rule.accept ((keywords.lookup word).getD kind) (.text word))

/-- Consumes a character that has to be the given one. -/
def consumeRune (kind : Kind) (expected : Char) : Scan (Except Failure (Option Token)) := do
  let received ← Scan.next
  if received = some expected then pure (Rule.accept kind (.rune expected))
  else pure (Rule.reject (.runeMismatch expected received))

/-- Consumes characters as long as they are the expected ones. The first other one is consumed too,
and given with its index.
-/
def takeExpected : Nat → List Char → Scan (Option (Option Char × Nat))
  | _, [] => pure none
  | index, expected :: rest => do
    let received ← Scan.next
    if received = some expected then takeExpected (index + 1) rest
    else pure (some (received, index))

/-- Consumes a text that has to be the given one. -/
def consumeLiteral (kind : Kind) (text : String) : Scan (Except Failure (Option Token)) := do
  match ← takeExpected 0 text.toList with
  | none => pure (Rule.accept kind (.text text))
  | some (received, index) => pure (Rule.reject (.literalMismatch text received index))

/-- Consumes so many characters one by one, whatever they are. -/
def dropNext : Nat → Scan Unit
  | 0 => pure ()
  | count + 1 => do
    discard Scan.next
    dropNext count

/-- Consumes as many characters as the mark has, and the rest of the line. -/
def consumeComment (mark : String) : Scan (Except Failure (Option Token)) := do
  dropNext mark.length
  discard (Scan.takeUntil (· == '\n'))
  pure Rule.drop

/-- Consumes what the pattern matches. -/
def consumeMatch (kind? : Option Kind) (expression : Pattern) (window : Nat)
    : Scan (Except Failure (Option Token)) := do
  let length ← expression.measure (max window 1)
  let text ← Scan.take (length.getD 0)
  match kind? with
  | some kind => pure (Rule.accept kind (.text (String.ofList text)))
  | none => pure Rule.drop

/-- Consumes input at a cursor where the rule can start. -/
def consume : Recognizer → Scan (Except Failure (Option Token))
  | blank => consumeBlank
  | word kind keywords => consumeWord kind keywords
  | number integerKind floatKind => consumeNumber integerKind floatKind
  | quotedText quote kind => consumeQuoted quote kind
  | rune kind character => consumeRune kind character
  | literal kind text _ => consumeLiteral kind text
  | lineComment mark _ => consumeComment mark
  | pattern kind? expression window => consumeMatch kind? expression window

/-- The rule that a recognizer stands for. -/
def toRule (recognizer : Recognizer) : Rule where
  name := recognizer.name
  canStart := recognizer.canStart
  consume := recognizer.consume

end Recognizer

end Lexical
