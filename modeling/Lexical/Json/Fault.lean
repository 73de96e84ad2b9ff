import Lexical.Decimal.Text
import Lexical.Text.Quoted

/-! What can be wrong with a JSON text: it is not well formed, or it does not hold the data that its
reader asks for. Faults are placed by line and byte, since that is how editors of such files count.
-/

namespace Lexical.Json

/-- A part of a JSON text that can be cut short. -/
inductive Part where
  | value
  | list
  | object
  | string
deriving DecidableEq, Repr

/-- A value of a JSON text, as far as it is told in a fault. -/
inductive Found where
  | null
  | boolean (value : Bool)
  | integer (value : Int)
  | float (value : Float)
  | string (value : String)
  | sequence
  | map

/-- What is wrong at a place of a JSON text. -/
inductive Cause where
  | cutShort (part : Part)
  | expectedValue
  | expectedWord
  | expectedColon
  | expectedCommaOrBrace
  | expectedCommaOrBracket
  | keyNotString
  | trailingComma
  | trailingCharacters
  | invalidNumber
  | numberOutOfRange
  | invalidEscape
  | loneSurrogate
  | cutPair
  | controlCharacter
  | wrongType (found : Found) (expected : String)
  | wrongValue (found : Found) (expected : String)
  | wrongLength (length : Nat) (expected : String)
  | duplicateField (name : String)
  | missingField (name : String)

/-- A place in a text, by the characters from there on and a count of bytes into them. -/
structure Mark where
  rest : List Char
  bytes : Nat := 0
deriving DecidableEq, Repr

/-- A fault and its place. -/
structure Fault where
  cause : Cause
  mark : Mark

/-- The name of a part. -/
def Part.display : Part → String
  | value => "a value"
  | list => "a list"
  | object => "an object"
  | string => "a string"

/-- How a value is told. -/
def Found.display : Found → String
  | null => "null"
  | boolean value => "boolean `" ++ (if value then "true" else "false") ++ "`"
  | integer value => "integer `" ++ value.repr ++ "`"
  | float value => "floating point `" ++ Decimal.briefText value ++ "`"
  | string value => "string " ++ Text.quoted value
  | sequence => "sequence"
  | map => "map"

/-- What is said of a cause. -/
def Cause.message : Cause → String
  | cutShort part => "EOF while parsing " ++ part.display
  | expectedValue => "expected value"
  | expectedWord => "expected ident"
  | expectedColon => "expected `:`"
  | expectedCommaOrBrace => "expected `,` or `\x7d`"
  | expectedCommaOrBracket => "expected `,` or `]`"
  | keyNotString => "key must be a string"
  | trailingComma => "trailing comma"
  | trailingCharacters => "trailing characters"
  | invalidNumber => "invalid number"
  | numberOutOfRange => "number out of range"
  | invalidEscape => "invalid escape"
  | loneSurrogate => "lone leading surrogate in hex escape"
  | cutPair => "unexpected end of hex escape"
  | controlCharacter => "control character (\\u0000-\\u001F) found while parsing a string"
  | wrongType found expected => "invalid type: " ++ found.display ++ ", expected " ++ expected
  | wrongValue found expected => "invalid value: " ++ found.display ++ ", expected " ++ expected
  | wrongLength length expected => "invalid length " ++ length.repr ++ ", expected " ++ expected
  | duplicateField name => "duplicate field `" ++ name ++ "`"
  | missingField name => "missing field `" ++ name ++ "`"

/-- A line and a number of bytes on it, moved on by so many bytes of a text. -/
def advance : Nat × Nat → Nat → List Char → Nat × Nat
  | place, _, [] => place
  | (line, column), bytes, c :: rest =>
    if bytes < c.utf8Size then (line, column + bytes)
    else advance (if c = '\n' then (line + 1, 0) else (line, column + c.utf8Size))
      (bytes - c.utf8Size) rest

/-- The number of bytes of a text. -/
def byteLength (text : List Char) : Nat :=
  text.foldl (fun bytes c => bytes + c.utf8Size) 0

/-- What is said of a fault in a text, with the line and the column of its place. -/
def Fault.message (fault : Fault) (text : List Char) : String :=
  let before := byteLength text - byteLength fault.mark.rest
  let (line, column) := advance (1, 0) (before + fault.mark.bytes) text
  fault.cause.message ++ " at line " ++ line.repr ++ " column " ++ column.repr

end Lexical.Json
