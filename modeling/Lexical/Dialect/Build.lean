import Lexical.Dialect.Json
import Lexical.Pattern.Compile
import Lexical.Recognizer.Basic
import Lexical.Tokenizer

/-! The tokenizer of a dialect. Its rules come in a fixed order: blanks, comments, patterns,
numbers, quoted text, words and at last punctuation, where longer symbols come before shorter
ones.
-/

namespace Lexical.Dialect

/-- What keeps a dialect from having a tokenizer. -/
inductive Defect where
  | emptyCommentMark
  | kindMissing (regex : String)
  | badPattern (regex reason : String)
  | emptyKeyword
  | keywordsWithoutWords
  | emptySymbol
deriving DecidableEq, Repr

/-- What is said of a defect. -/
def Defect.message : Defect → String
  | emptyCommentMark => "line comment prefix must not be empty"
  | kindMissing regex => "pattern " ++ Text.quoted regex ++ " needs a kind unless it is skipped"
  | badPattern regex reason => "bad pattern " ++ Text.quoted regex ++ ": " ++ reason
  | emptyKeyword => "keyword " ++ Text.quoted "" ++ " must not be empty"
  | keywordsWithoutWords => "keywords need identifiers to be enabled"
  | emptySymbol => "punctuation must not contain empty symbols"

/-- The recognizer of a pattern. A kind is not looked at where the pattern is skipped, and the text
is compiled as one that matches only at the start.
-/
def PatternEntry.recognizer (entry : PatternEntry) (compile : Pattern.Compiler)
    : Except Defect Recognizer := do
  let kind? ←
    match entry.skip, entry.kind? with
    | true, _ => pure none
    | false, some kind => pure (some ⟨kind⟩)
    | false, none => throw (.kindMissing entry.regex)
  match compile (Pattern.anchored entry.regex) with
  | .ok pattern => pure (.pattern kind? pattern (entry.window?.getD Recognizer.defaultWindow))
  | .error reason => throw (.badPattern entry.regex reason)

/-- The order of symbols: longer ones first, and those of one length by their characters. -/
def symbolLe (a b : String) : Bool :=
  b.length < a.length || (a.length == b.length && a ≤ b)

/-- The list without elements that equal the one before them. -/
def dropRepeats : List String → List String
  | [] => []
  | [symbol] => [symbol]
  | first :: second :: rest =>
    if first = second then dropRepeats (second :: rest)
    else first :: dropRepeats (second :: rest)

/-- The symbols in their order, each once. -/
def orderedSymbols (symbols : List String) : List String :=
  dropRepeats (symbols.mergeSort symbolLe)

/-- The recognizer of a symbol, whose kind is the symbol itself. -/
def symbolRecognizer (symbol : String) : Except Defect Recognizer :=
  match symbol.toList with
  | [c] => .ok (.rune ⟨symbol⟩ c)
  | _ => (Recognizer.literal? ⟨symbol⟩ symbol).mapError fun _ => .emptySymbol

/-- The recognizers of blanks. -/
def blankPart (dialect : Dialect) : List Recognizer :=
  if dialect.skipBlanks then [.blank] else []

/-- The recognizers of comments. -/
def commentPart (dialect : Dialect) : Except Defect (List Recognizer) :=
  match dialect.lineComment? with
  | none => .ok []
  | some mark =>
    match Recognizer.lineComment? mark with
    | .ok comment => .ok [comment]
    | .error _ => .error .emptyCommentMark

/-- The recognizers of numbers. -/
def numberPart (dialect : Dialect) : List Recognizer :=
  if dialect.numbers then [Recognizer.numbers] else []

/-- The recognizers of quoted text. -/
def quotePart (dialect : Dialect) : List Recognizer :=
  dialect.quotes.map fun quote => .quotedText quote .string

/-- The recognizers of words. The kind of a keyword is the keyword itself. -/
def wordPart (dialect : Dialect) : Except Defect (List Recognizer) :=
  if dialect.words then
    if "" ∈ dialect.keywords then .error .emptyKeyword
    else .ok [.word .identifier (dialect.keywords.map fun keyword => (keyword, ⟨keyword⟩))]
  else if dialect.keywords.isEmpty then .ok []
  else .error .keywordsWithoutWords

/-- The recognizers of a dialect in their order, or its first defect in that order. -/
def recognizers (dialect : Dialect) (compile : Pattern.Compiler)
    : Except Defect (List Recognizer) := do
  let comments ← dialect.commentPart
  let patterns ← dialect.patterns.mapM (·.recognizer compile)
  let words ← dialect.wordPart
  let symbols ← (orderedSymbols dialect.punctuation).mapM symbolRecognizer
  pure (dialect.blankPart ++ comments ++ patterns ++ dialect.numberPart ++ dialect.quotePart
    ++ words ++ symbols)

/-- A fault of a configuration as an error. -/
def invalid (message : String) : Error :=
  { cause := .invalidConfig message }

/-- The tokenizer of a dialect, given what compiles its patterns. -/
def build (dialect : Dialect) (compile : Pattern.Compiler := Pattern.compile)
    : Except Error Tokenizer :=
  match dialect.recognizers compile with
  | .ok recognizers => .ok ⟨recognizers.map Recognizer.toRule⟩
  | .error defect => .error (invalid defect.message)

/-- The dialect that a JSON text describes, or what is wrong with the text as an error. -/
def load (json : String) : Except Error Dialect :=
  (ofJson json).mapError fun fault => invalid (fault.message json.toList)

end Lexical.Dialect
