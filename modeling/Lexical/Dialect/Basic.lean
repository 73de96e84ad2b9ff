/-! Dialects: which ready-made recognizers a tokenizer has, and with what parameters. -/

namespace Lexical

/-- Lexemes that a pattern describes. They need a kind unless they are skipped, and are sought in a
window of the given or else the usual width.
-/
structure Dialect.PatternEntry where
  kind? : Option String := none
  regex : String
  window? : Option Nat := none
  skip : Bool := false
deriving DecidableEq, Repr

/-- The recognizers of a language: blanks between lexemes, a mark for comments up to the end of the
line, numbers, words of which some are keywords, quotes, fixed symbols, and patterns.
-/
structure Dialect where
  skipBlanks : Bool
  lineComment? : Option String
  numbers : Bool
  words : Bool
  quotes : List Char
  keywords : List String
  punctuation : List String
  patterns : List Dialect.PatternEntry
deriving DecidableEq, Repr

namespace Dialect

/-- The symbols of the standard dialect. -/
def standardPunctuation : List String :=
  ["==", "!=", "<=", ">=", "&&", "||", "->", "+=", "-=", "++", "--", "(", ")", "\x7b", "\x7d", "[",
    "]", ";", ":", ",", ".", "+", "-", "*", "/", "%", "=", "<", ">", "!", "?"]

/-- The dialect of a language in the manner of C, without keywords. -/
def standard : Dialect where
  skipBlanks := true
  lineComment? := some "//"
  numbers := true
  words := true
  quotes := ['"', '\'']
  keywords := []
  punctuation := standardPunctuation
  patterns := []

/-- The dialect with nothing in it. -/
def bare : Dialect where
  skipBlanks := false
  lineComment? := none
  numbers := false
  words := false
  quotes := []
  keywords := []
  punctuation := []
  patterns := []

end Dialect

end Lexical
