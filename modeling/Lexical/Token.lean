import Lexical.Position
import Lexical.Decimal.Text

/-! Tokens: a kind, a value and the place where the token starts. Values compare as numbers and
texts do, so a float that is no number differs from itself and the two zeros agree.
-/

namespace Lexical

/-- What a token is, by name. -/
structure Kind where
  name : String
deriving DecidableEq, Repr

namespace Kind

/-- The kind of words that are no keywords. -/
def identifier : Kind := ⟨"identifier"⟩

/-- The kind of whole numbers. -/
def integer : Kind := ⟨"integer"⟩

/-- The kind of numbers with a point. -/
def float : Kind := ⟨"float"⟩

/-- The kind of quoted text. -/
def string : Kind := ⟨"string"⟩

/-- Whether the kind is one of the two kinds of numbers. -/
def isNumeric (kind : Kind) : Bool :=
  kind == integer || kind == float

/-- Kinds in the order of their names, character by character. -/
def sort (kinds : List Kind) : List Kind :=
  kinds.mergeSort fun a b => a.name ≤ b.name

end Kind

/-- What a token holds. -/
inductive Value where
  | absent
  | int (number : Int64)
  | float (number : Float)
  | text (content : String)
  | rune (character : Char)

namespace Value

/-- Values of one sort with equal contents; floats are compared as numbers. -/
def agrees : Value → Value → Bool
  | absent, absent => true
  | int a, int b => a == b
  | float a, float b => a == b
  | text a, text b => a == b
  | rune a, rune b => a == b
  | _, _ => false

instance : BEq Value := ⟨agrees⟩

/-- The content as text, and nothing for an absent value. -/
def display : Value → String
  | absent => ""
  | int number => number.toInt.repr
  | float number => Decimal.fullText number
  | text content => content
  | rune character => String.singleton character

/-- The number of an integer value. -/
def int? : Value → Option Int64
  | int number => some number
  | _ => none

/-- The number of a float value. -/
def float? : Value → Option Float
  | float number => some number
  | _ => none

/-- The content of a text value. -/
def text? : Value → Option String
  | text content => some content
  | _ => none

/-- The character of a single-character value. -/
def rune? : Value → Option Char
  | rune character => some character
  | _ => none

end Value

/-- A token. Its origin is filled in by the tokenizer where the rule that made it gave none. -/
structure Token where
  kind : Kind
  value : Value
  origin? : Option Position := none

namespace Token

instance : BEq Token where
  beq a b := a.kind == b.kind && a.value == b.value && a.origin? == b.origin?

/-- Whether the token is of the kind. -/
def isKind (token : Token) (kind : Kind) : Bool :=
  token.kind == kind

/-- Whether the token is of one of the kinds. -/
def isAnyKind (token : Token) (kinds : List Kind) : Bool :=
  kinds.any token.isKind

/-- Gives the token an origin unless it has one. -/
def orAt (token : Token) (place : Position) : Token :=
  { token with origin? := token.origin?.or (some place) }

/-- The kind, then the value in parentheses and the origin, as far as they are present. -/
def display (token : Token) : String :=
  let value :=
    match token.value with
    | .absent => ""
    | value => " (" ++ value.display ++ ")"
  let origin :=
    match token.origin? with
    | some place => " at " ++ place.display
    | none => ""
  token.kind.name ++ value ++ origin

end Token

end Lexical
