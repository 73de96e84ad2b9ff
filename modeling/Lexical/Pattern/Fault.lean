import Lexical.Pattern.Span

/-! What can be wrong with a pattern, and how it is shown: the pattern, carets below the stretch
that is at fault, and the reason.
-/

namespace Lexical.Pattern

/-- Why a pattern is refused. -/
inductive Reason where
  | classEscapeInvalid
  | classRangeInvalid
  | classRangeLiteral
  | classUnclosed
  | decimalEmpty
  | decimalInvalid
  | hexEmpty
  | hexInvalid
  | hexInvalidDigit
  | escapeCutShort
  | escapeUnrecognized
  | flagDanglingNegation
  | flagDuplicate
  | flagRepeatedNegation
  | flagCutShort
  | flagUnrecognized
  | groupNameDuplicate
  | groupNameEmpty
  | groupNameInvalid
  | groupNameCutShort
  | groupUnclosed
  | groupUnopened
  | nestedTooDeeply (limit : Nat)
  | countInvalid
  | countDecimalEmpty
  | countUnclosed
  | repetitionMissing
  | boundaryUnclosed
  | boundaryUnrecognized
  | boundaryOrCountCutShort
  | propertyInvalid
  | backreference
  | lookAround
  | unicodeNotAllowed
  | invalidUtf8
  | propertyNotFound
  | propertyValueNotFound
deriving DecidableEq, Repr

/-- What is said of a reason. -/
def Reason.message : Reason → String
  | classEscapeInvalid => "invalid escape sequence found in character class"
  | classRangeInvalid => "invalid character class range, the start must be <= the end"
  | classRangeLiteral => "invalid range boundary, must be a literal"
  | classUnclosed => "unclosed character class"
  | decimalEmpty => "decimal literal empty"
  | decimalInvalid => "decimal literal invalid"
  | hexEmpty => "hexadecimal literal empty"
  | hexInvalid => "hexadecimal literal is not a Unicode scalar value"
  | hexInvalidDigit => "invalid hexadecimal digit"
  | escapeCutShort => "incomplete escape sequence, reached end of pattern prematurely"
  | escapeUnrecognized => "unrecognized escape sequence"
  | flagDanglingNegation => "dangling flag negation operator"
  | flagDuplicate => "duplicate flag"
  | flagRepeatedNegation => "flag negation operator repeated"
  | flagCutShort => "expected flag but got end of regex"
  | flagUnrecognized => "unrecognized flag"
  | groupNameDuplicate => "duplicate capture group name"
  | groupNameEmpty => "empty capture group name"
  | groupNameInvalid => "invalid capture group character"
  | groupNameCutShort => "unclosed capture group name"
  | groupUnclosed => "unclosed group"
  | groupUnopened => "unopened group"
  | nestedTooDeeply limit =>
    "exceed the maximum number of nested parentheses/brackets (" ++ limit.repr ++ ")"
  | countInvalid => "invalid repetition count range, the start must be <= the end"
  | countDecimalEmpty => "repetition quantifier expects a valid decimal"
  | countUnclosed => "unclosed counted repetition"
  | repetitionMissing => "repetition operator missing expression"
  | boundaryUnclosed =>
    "special word boundary assertion is either unclosed or contains an invalid character"
  | boundaryUnrecognized =>
    "unrecognized special word boundary assertion, "
      ++ "valid choices are: start, end, start-half or end-half"
  | boundaryOrCountCutShort =>
    "found either the beginning of a special word boundary or a bounded repetition on a \\b with "
      ++ "an opening brace, but no closing brace"
  | propertyInvalid => "invalid Unicode character class"
  | backreference => "backreferences are not supported"
  | lookAround => "look-around, including look-ahead and look-behind, is not supported"
  | unicodeNotAllowed => "Unicode not allowed here"
  | invalidUtf8 => "pattern can match invalid UTF-8"
  | propertyNotFound => "Unicode property not found"
  | propertyValueNotFound => "Unicode property value not found"

/-- Why a text is no pattern: a stretch of it is at fault, perhaps because of an earlier one; or the
program for it would be too large.
-/
inductive Fault where
  | refused (reason : Reason) (span : Span) (earlier? : Option Span)
  | tooLarge (limit : Nat)
deriving DecidableEq, Repr

/-- The lines of a text, without their ends. The latest line comes first in the accumulator, as do
its latest characters.
-/
def linesOnto (lines : List (List Char)) (line : List Char) : List Char → List (List Char)
  | [] => (if line.isEmpty then lines else line.reverse :: lines).reverse
  | '\r' :: '\n' :: rest => linesOnto (line.reverse :: lines) [] rest
  | '\n' :: rest => linesOnto (line.reverse :: lines) [] rest
  | c :: rest => linesOnto lines (c :: line) rest

/-- The lines of a text, without their ends. -/
def lines (text : List Char) : List (List Char) :=
  linesOnto [] [] text

/-- Carets under the stretches of one line, from the given column on. -/
def carets : Nat → List Span → List Char
  | _, [] => []
  | column, span :: others =>
    let blanks := span.start.column - 1 - column
    let width := max 1 (span.stop.column - span.start.column)
    List.replicate blanks ' ' ++ List.replicate width '^'
      ++ carets (column + blanks + width) others

/-- The row of carets under a line, behind a margin, if a stretch of this line is at fault. -/
def caretRow (margin number : Nat) (spans : List Span) : List Char :=
  match spans.filter fun span => span.isOneLine && span.start.line == number with
  | [] => []
  | here => List.replicate margin ' ' ++ carets 0 here ++ ['\n']

/-- The lines of a pattern with carets below them. Numbers stand before the lines of a pattern that
has several.
-/
def annotate (width : Nat) (spans : List Span) : Nat → List (List Char) → List Char
  | _, [] => []
  | number, line :: others =>
    let label :=
      if width = 0 then [' ', ' ', ' ', ' ']
      else
        let digits := number.repr.toList
        List.replicate (width - digits.length) ' ' ++ digits ++ [':', ' ']
    label ++ line ++ '\n' :: caretRow label.length number spans
      ++ annotate width spans (number + 1) others

/-- The note on a stretch over several lines, which has no carets. -/
def spanNote (span : Span) : String :=
  "on line " ++ span.start.line.repr ++ " (column " ++ span.start.column.repr
    ++ ") through line " ++ span.stop.line.repr ++ " (column " ++ (span.stop.column - 1).repr ++ ")"

/-- The pattern with the stretches that are at fault, and the reason. -/
def Reason.show (reason : Reason) (spans : List Span) (text : List Char) : String :=
  let spans := spans.mergeSort Span.le
  let count := (lines text).length + if text.getLast? = some '\n' then 1 else 0
  let width := if count ≤ 1 then 0 else count.repr.length
  let shown := String.ofList (annotate width spans 1 (lines text))
  let notes := (spans.filter fun span => !span.isOneLine).map spanNote
  let body :=
    if '\n' ∈ text then
      let divider := String.ofList (List.replicate 79 '~') ++ "\n"
      divider ++ shown ++ divider
        ++ if notes.isEmpty then "" else String.intercalate "\n" notes ++ "\n"
    else shown
  "regex parse error:\n" ++ body ++ "error: " ++ reason.message

/-- What is said of a fault in a pattern. -/
def Fault.message (fault : Fault) (pattern : String) : String :=
  match fault with
  | refused reason span earlier? => reason.show (earlier?.toList ++ [span]) pattern.toList
  | tooLarge limit => "Compiled regex exceeds size limit of " ++ limit.repr ++ " bytes."

end Lexical.Pattern
