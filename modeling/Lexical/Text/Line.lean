/-! The lines of a text by number. A line ends after a line feed, and is shown without the line
feed and without the carriage returns before it.
-/

namespace Lexical.Text

/-- The list without its longest final run of elements that satisfy the test. -/
def dropTrailing {α : Type} (test : α → Bool) (items : List α) : List α :=
  (items.reverse.dropWhile test).reverse

/-- What follows the first so many line feeds, if there are as many. -/
def afterLineFeeds : Nat → List Char → Option (List Char)
  | 0, text => some text
  | _ + 1, [] => none
  | count + 1, c :: rest =>
    if c = '\n' then afterLineFeeds count rest else afterLineFeeds (count + 1) rest

/-- The line that begins a non-empty text. -/
def firstLine (text : List Char) : List Char :=
  dropTrailing (· == '\r') (text.takeWhile (· != '\n'))

/-- The line of the given number, counted from 1. Behind a final line feed no line begins. -/
def line? (text : String) (number : Nat) : Option String :=
  match number with
  | 0 => none
  | before + 1 =>
    match afterLineFeeds before text.toList with
    | some (c :: rest) => some (String.ofList (firstLine (c :: rest)))
    | _ => none

end Lexical.Text
