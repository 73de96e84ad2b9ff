import Lexical.Pattern.Expression
import Lexical.Pattern.Fault
import Lexical.Text.Blank

/-! The text of a pattern while it is read: what is left, the place, and whether blanks and comments
say nothing here.
-/

namespace Lexical.Pattern

/-- What is left of a pattern at a place, and the names that its groups have so far. -/
structure Text where
  rest : List Char
  place : Place := {}
  ignoresBlanks : Bool := false
  names : List (String × Span) := []

/-- A parser takes a part of a pattern off the front of what is left. -/
abbrev Parser := StateT Text (Except Fault)

/-- Passes over characters that satisfy the test. -/
def dropWhile (test : Char → Bool) : List Char → Place → List Char × Place
  | [], place => ([], place)
  | c :: rest, place =>
    if test c then dropWhile test rest (place.advance c) else (c :: rest, place)

/-- Passes over blanks and over comments, which go from a number sign to the end of the line. -/
def dropBlanks (inComment : Bool) : List Char → Place → List Char × Place
  | [], place => ([], place)
  | c :: rest, place =>
    if inComment then dropBlanks (c != '\n') rest (place.advance c)
    else if Lexical.Text.isBlank c then dropBlanks false rest (place.advance c)
    else if c = '#' then dropBlanks true rest (place.advance c)
    else (c :: rest, place)

/-- The first character that is neither a blank nor a number sign, where one number sign is passed
over.
-/
def firstShown? (inComment : Bool) : List Char → Option Char
  | [] => none
  | c :: rest =>
    if Lexical.Text.isBlank c then firstShown? inComment rest
    else if !inComment && c == '#' then firstShown? true rest
    else some c

namespace Parser

/-- The place of the next character. -/
def place : Parser Place := Text.place <$> get

/-- The next character. -/
def peek : Parser (Option Char) := (·.rest.head?) <$> get

/-- Whether nothing is left. -/
def atEnd : Parser Bool := (·.rest.isEmpty) <$> get

/-- Whether the next character is the given one. -/
def sees (c : Char) : Parser Bool := (· == some c) <$> peek

/-- The character behind the next one, or the first one that says something where blanks do not. -/
def peekSecond : Parser (Option Char) := do
  let text ← get
  let behind := text.rest.tail
  pure (if text.ignoresBlanks then (firstShown? false behind).or behind.head? else behind.head?)

/-- The stretch of the next character. -/
def charSpan : Parser Span := do
  let text ← get
  match text.rest with
  | c :: _ => pure ⟨text.place, text.place.advance c⟩
  | [] => pure (.empty text.place)

/-- The stretch from a place up to the next character. -/
def spanFrom (start : Place) : Parser Span := do
  pure ⟨start, ← place⟩

/-- Refuses the pattern for a stretch of it. -/
def fail (reason : Reason) (span : Span) : Parser α :=
  throw (.refused reason span none)

/-- Refuses the pattern for a stretch of it because of an earlier one. -/
def failAgain (reason : Reason) (span earlier : Span) : Parser α :=
  throw (.refused reason span (some earlier))

/-- Refuses the pattern at the next place. -/
def failHere (reason : Reason) : Parser α := do
  fail reason (.empty (← place))

/-- Refuses the pattern for the next character. -/
def failChar (reason : Reason) : Parser α := do
  fail reason (← charSpan)

/-- Refuses the pattern from a place up to the next character. -/
def failFrom (start : Place) (reason : Reason) : Parser α := do
  fail reason (← spanFrom start)

/-- Passes over the next character, and tells whether another one follows. -/
def skip : Parser Bool := do
  modify fun text =>
    match text.rest with
    | c :: rest => { text with rest, place := text.place.advance c }
    | [] => text
  not <$> atEnd

/-- Passes over blanks and comments where they say nothing. -/
def skipBlanks : Parser Unit :=
  modify fun text =>
    if text.ignoresBlanks then
      let (rest, place) := dropBlanks false text.rest text.place
      { text with rest, place }
    else text

/-- Passes over the next character and blanks behind it, and tells whether another one follows. -/
def skipOn : Parser Bool := do
  discard skip
  skipBlanks
  not <$> atEnd

/-- Passes over the given characters if they come next, and tells whether they did. -/
def skipIf (expected : List Char) : Parser Bool := do
  if expected.isPrefixOf (← get).rest then
    modify fun text =>
      { text with
        rest := text.rest.drop expected.length
        place := expected.foldl Place.advance text.place }
    pure true
  else pure false

/-- Takes characters that satisfy the test, with blanks between them where those say nothing, at
most so many.
-/
def takeSpaced (test : Char → Bool) : Nat → List Char → Parser (List Char)
  | 0, taken => pure taken.reverse
  | fuel + 1, taken => do
    match ← peek with
    | some c =>
      if test c then
        discard skipOn
        takeSpaced test fuel (c :: taken)
      else pure taken.reverse
    | none => pure taken.reverse

/-- Takes characters that satisfy the test, with blanks between them where those say nothing. -/
def takeAll (test : Char → Bool) : Parser (List Char) := do
  takeSpaced test ((← get).rest.length + 1) []

end Parser

end Lexical.Pattern
