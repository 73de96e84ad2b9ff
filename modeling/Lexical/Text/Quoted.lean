import Lexical.Text.Unprintable

/-! Text between quotes, on one line and without characters that do not show: these become
escapes. Double quotes enclose text and single quotes a character.
-/

namespace Lexical.Text

/-- A character as `\u`, then its code point in lower-case hexadecimal between braces. -/
def unicodeEscape (c : Char) : List Char :=
  ['\\', 'u', '\x7b'] ++ Nat.toDigits 16 c.toNat ++ ['\x7d']

/-- How a character stands between quotes of the given kind. -/
def escapeWithin (quote c : Char) : List Char :=
  if c = '\x00' then ['\\', '0']
  else if c = '\t' then ['\\', 't']
  else if c = '\r' then ['\\', 'r']
  else if c = '\n' then ['\\', 'n']
  else if c = '\\' ∨ c = quote then ['\\', c]
  else if isPrintable c then [c]
  else unicodeEscape c

/-- The text between double quotes. -/
def quoted (text : String) : String :=
  String.ofList ('"' :: text.toList.flatMap (escapeWithin '"') ++ ['"'])

/-- The character between single quotes. -/
def quotedChar (c : Char) : String :=
  String.ofList ('\'' :: escapeWithin '\'' c ++ ['\''])

/-- The character in printable ASCII, both quotes and the backslash escaped as well. -/
def asciiEscape (c : Char) : String :=
  String.ofList <|
    if c = '\t' then ['\\', 't']
    else if c = '\r' then ['\\', 'r']
    else if c = '\n' then ['\\', 'n']
    else if c = '\\' ∨ c = '\'' ∨ c = '"' then ['\\', c]
    else if ' ' ≤ c ∧ c ≤ '~' then [c]
    else unicodeEscape c

/-- A list of texts, each quoted, between brackets. -/
def quotedList (texts : List String) : String :=
  "[" ++ String.intercalate ", " (texts.map quoted) ++ "]"

end Lexical.Text
