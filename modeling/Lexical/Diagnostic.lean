import Lexical.Error
import Lexical.Text.Blank
import Lexical.Text.Line

/-! Errors shown beside the line of the source that they point at, with a caret under the place.
-/

namespace Lexical.Diagnostic

/-- So many copies of a character. -/
def run (count : Nat) (c : Char) : String :=
  String.ofList (List.replicate count c)

/-- Whether the character is a space or a tab, the only indentation that is cut off. -/
def isIndent (c : Char) : Bool :=
  c == ' ' || c == '\t'

/-- The error itself, followed by its tip in parentheses. -/
def headline (error : Error) : String :=
  let tip :=
    match error.cause.tip? with
    | some tip => " (" ++ tip ++ ")"
    | none => ""
  "Error: " ++ error.display ++ tip ++ "\n"

/-- The line without its indentation and trailing blanks, between two rows that leave room for its
number. The caret stands under the given column, which counts the indentation.
-/
def excerpt (number column : Nat) (line : String) : String :=
  let indent := (line.toList.takeWhile isIndent).length
  let text := String.ofList (Text.dropTrailing Text.isBlank (line.toList.drop indent))
  let label := number.repr
  let margin := run (label.length + 1) ' ' ++ "|"
  margin ++ "\n" ++ label ++ " | " ++ text ++ "\n"
    ++ margin ++ " " ++ run (max (column - indent) 1 - 1) '-' ++ "^\n"

/-- The error, the source that it points at and the line in question, as far as they are known. -/
def render (error : Error) (source : String) : String :=
  match error.place? with
  | none => headline error
  | some place =>
    let shown :=
      match Text.line? source place.line with
      | some line => excerpt place.line place.column line
      | none => ""
    headline error ++ "-> " ++ place.source ++ "\n" ++ shown

end Lexical.Diagnostic
