import Lexical.Dialect.Basic
import Lexical.Json.Data
import Lexical.Json.Value

/-! Dialects as JSON: a record of which every part may be left out and then is as in the standard
dialect.
-/

namespace Lexical.Dialect

/-- A character as a JSON value. -/
def charToJson (c : Char) : Json :=
  .string (String.singleton c)

/-- An entry for a pattern as a JSON value, with all its parts. -/
def PatternEntry.toJson (entry : PatternEntry) : Json :=
  .object [
    ("kind", Json.optional .string entry.kind?),
    ("regex", .string entry.regex),
    ("window", Json.optional .natural entry.window?),
    ("skip", .bool entry.skip)]

/-- A dialect as a JSON value, with all its parts. -/
def toJson (dialect : Dialect) : Json :=
  .object [
    ("skip_whitespace", .bool dialect.skipBlanks),
    ("line_comment", Json.optional .string dialect.lineComment?),
    ("numbers", .bool dialect.numbers),
    ("identifiers", .bool dialect.words),
    ("quotes", .list (dialect.quotes.map charToJson)),
    ("keywords", .list (dialect.keywords.map .string)),
    ("punctuation", .list (dialect.punctuation.map .string)),
    ("patterns", .list (dialect.patterns.map PatternEntry.toJson))]

/-- The parts of an entry for a pattern that have been read. -/
structure EntryDraft where
  kind : Option (Option String) := none
  regex : Option String := none
  window : Option (Option Nat) := none
  skip : Option Bool := none

/-- The shape of an entry for a pattern. -/
def entryShape : Json.Reader.Shape EntryDraft where
  name := "PatternConfig"
  fields := [
    { name := "kind"
      isSet := fun draft => draft.kind.isSome
      read := fun draft => do
        pure { draft with kind := some (← Json.Reader.optional Json.Reader.string) } },
    { name := "regex"
      isSet := fun draft => draft.regex.isSome
      read := fun draft => do pure { draft with regex := some (← Json.Reader.string) }
      required := true },
    { name := "window"
      isSet := fun draft => draft.window.isSome
      read := fun draft => do
        pure { draft with window := some (← Json.Reader.optional Json.Reader.natural) } },
    { name := "skip"
      isSet := fun draft => draft.skip.isSome
      read := fun draft => do pure { draft with skip := some (← Json.Reader.bool) } }]

/-- The entry, where the parts that were not read are absent. -/
def EntryDraft.toEntry (draft : EntryDraft) : PatternEntry where
  kind? := draft.kind.getD none
  regex := draft.regex.getD ""
  window? := draft.window.getD none
  skip := draft.skip.getD false

/-- Reads an entry for a pattern. -/
def readEntry : Json.Reader PatternEntry :=
  EntryDraft.toEntry <$> Json.Reader.record entryShape {}

/-- The parts of a dialect that have been read. -/
structure Draft where
  skipBlanks : Option Bool := none
  lineComment : Option (Option String) := none
  numbers : Option Bool := none
  words : Option Bool := none
  quotes : Option (List Char) := none
  keywords : Option (List String) := none
  punctuation : Option (List String) := none
  patterns : Option (List PatternEntry) := none

/-- The shape of a dialect. -/
def shape : Json.Reader.Shape Draft where
  name := "TokenizerConfig"
  fields := [
    { name := "skip_whitespace"
      isSet := fun draft => draft.skipBlanks.isSome
      read := fun draft => do pure { draft with skipBlanks := some (← Json.Reader.bool) } },
    { name := "line_comment"
      isSet := fun draft => draft.lineComment.isSome
      read := fun draft => do
        pure { draft with lineComment := some (← Json.Reader.optional Json.Reader.string) } },
    { name := "numbers"
      isSet := fun draft => draft.numbers.isSome
      read := fun draft => do pure { draft with numbers := some (← Json.Reader.bool) } },
    { name := "identifiers"
      isSet := fun draft => draft.words.isSome
      read := fun draft => do pure { draft with words := some (← Json.Reader.bool) } },
    { name := "quotes"
      isSet := fun draft => draft.quotes.isSome
      read := fun draft => do
        pure { draft with quotes := some (← Json.Reader.list Json.Reader.char) } },
    { name := "keywords"
      isSet := fun draft => draft.keywords.isSome
      read := fun draft => do
        pure { draft with keywords := some (← Json.Reader.list Json.Reader.string) } },
    { name := "punctuation"
      isSet := fun draft => draft.punctuation.isSome
      read := fun draft => do
        pure { draft with punctuation := some (← Json.Reader.list Json.Reader.string) } },
    { name := "patterns"
      isSet := fun draft => draft.patterns.isSome
      read := fun draft => do
        pure { draft with patterns := some (← Json.Reader.list readEntry) } }]

/-- The dialect, where the parts that were not read are those of the standard dialect. -/
def Draft.toDialect (draft : Draft) : Dialect where
  skipBlanks := draft.skipBlanks.getD standard.skipBlanks
  lineComment? := draft.lineComment.getD standard.lineComment?
  numbers := draft.numbers.getD standard.numbers
  words := draft.words.getD standard.words
  quotes := draft.quotes.getD standard.quotes
  keywords := draft.keywords.getD standard.keywords
  punctuation := draft.punctuation.getD standard.punctuation
  patterns := draft.patterns.getD standard.patterns

/-- Reads a dialect. -/
def reader : Json.Reader Dialect :=
  Draft.toDialect <$> Json.Reader.record shape {}

/-- The dialect that a JSON text describes. -/
def ofJson (text : String) : Except Json.Fault Dialect :=
  Json.Reader.whole reader text

end Lexical.Dialect
