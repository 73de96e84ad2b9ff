import Lexical.Json.Data
import Lexical.Json.Value
import Lexical.Proofs.Numeral
import Mathlib.Data.Finset.Basic

/-! The grammar of JSON texts: which texts are well formed, and which of them stand for a value.
Blanks may stand around every value and key, and a character of a string may be written in several
ways; a text that is well formed need not stand for any value, since its escapes may name half a
pair.
-/

namespace Lexical.Json

open Reader (Bracket)

-----------------------------------------------------------------------------------------
-- Blanks, rows and brackets
-----------------------------------------------------------------------------------------

/-- A text of blanks and nothing else. -/
def Blanks (text : List Char) : Prop :=
  ∀ c ∈ text, c ∈ [' ', '\n', '\t', '\r']

/-- A text with blanks around it. -/
inductive Padded (inner : List Char) : List Char → Prop
  | intro {before after} (leading : Blanks before) (trailing : Blanks after)
    : Padded inner (before ++ (inner ++ after))

/-- Texts of one or more items, with a comma between any two. -/
inductive Row {α : Type} (Item : α → List Char → Prop) : List α → List Char → Prop
  | last {item text} (written : Item item text) : Row Item [item] text
  | cons {item text others rest} (written : Item item text) (behind : Row Item others rest)
    : Row Item (item :: others) (text ++ ',' :: rest)

/-- The character that a bracket is. -/
def Reader.Bracket.opening : Bracket → Char
  | .list => '['
  | .object => '\x7b'

/-- Items between brackets: blanks where there are none, and else a row of them. -/
inductive Enclosed (bracket : Bracket) {α : Type} (Item : α → List Char → Prop)
    : List α → List Char → Prop
  | empty {text} (blanks : Blanks text)
    : Enclosed bracket Item [] (bracket.opening :: (text ++ [bracket.closing]))
  | filled {items text} (row : Row Item items text)
    : Enclosed bracket Item items (bracket.opening :: (text ++ [bracket.closing]))

/-- A key, a colon and a value, with blanks around each of them. The value is given by its text, and
the key by what a text of it stands for.
-/
inductive Member {κ : Type} (Key : κ → List Char → Prop) (member : κ × List Char)
    : List Char → Prop
  | intro {before key between text} (leading : Blanks before) (named : Key member.1 key)
    (middle : Blanks between) (padded : Padded member.2 text)
    : Member Key member (before ++ (key ++ (between ++ ':' :: text)))

-----------------------------------------------------------------------------------------
-- Strings
-----------------------------------------------------------------------------------------

/-- The letters that may stand behind a backslash, and what each of them stands for there. -/
def letterEscapes : List (Char × Char) :=
  [('"', '"'), ('\\', '\\'), ('/', '/'), ('b', '\x08'), ('f', '\x0c'), ('n', '\n'), ('r', '\r'),
    ('t', '\t')]

/-- Four hexadecimal digits and the number that they denote. -/
structure HexUnit (digits : List Char) (unit : Nat) : Prop where
  length : digits.length = 4
  denotes : Numeral.Denotes 16 digits unit

/-- How a character may be written in a string: as it is, as a letter behind a backslash, or as its
number, which beyond the first 2¹⁶ is split into the two halves of a pair.
-/
inductive WritesChar (c : Char) : List Char → Prop
  | plain (printable : ' ' ≤ c) (noQuote : c ≠ '"') (noBackslash : c ≠ '\\') : WritesChar c [c]
  | letter {letter} (listed : (letter, c) ∈ letterEscapes) : WritesChar c ['\\', letter]
  | unit {digits} (number : HexUnit digits c.toNat) : WritesChar c ('\\' :: 'u' :: digits)
  | pair {first second offset} (number : c.toNat = 0x10000 + offset)
    (high : HexUnit first (0xD800 + offset / 0x400))
    (low : HexUnit second (0xDC00 + offset % 0x400))
    : WritesChar c ('\\' :: 'u' :: (first ++ '\\' :: 'u' :: second))

/-- How a string may be written: its characters in a row between quotes. -/
inductive WritesString (value : String) : List Char → Prop
  | intro {items} (written : List.Forall₂ WritesChar value.toList items)
    : WritesString value ('"' :: (items.flatten ++ ['"']))

/-- What may stand between the quotes of a string: a character, or an escape of any shape. -/
inductive StringItem : List Char → Prop
  | plain {c : Char} (printable : ' ' ≤ c) (noQuote : c ≠ '"') (noBackslash : c ≠ '\\')
    : StringItem [c]
  | letter {letter c} (listed : (letter, c) ∈ letterEscapes) : StringItem ['\\', letter]
  | unit {digits number} (unit : HexUnit digits number) : StringItem ('\\' :: 'u' :: digits)

/-- A string that is well formed. -/
inductive IsString : List Char → Prop
  | intro {items : List (List Char)} (written : ∀ item ∈ items, StringItem item)
    : IsString ('"' :: (items.flatten ++ ['"']))

-----------------------------------------------------------------------------------------
-- Numbers
-----------------------------------------------------------------------------------------

/-- One or more digits. -/
structure Digits (text : List Char) : Prop where
  nonempty : text ≠ []
  all : ∀ c ∈ text, c.isDigit

/-- The whole part of a number. Only zero itself begins with a zero. -/
inductive Whole : List Char → Prop
  | zero : Whole ['0']
  | other {text} (digits : Digits text) (positive : text.head? ≠ some '0') : Whole text

/-- What may follow the whole part of a number. -/
inductive Fraction : List Char → Prop
  | absent : Fraction []
  | present {text} (digits : Digits text) : Fraction ('.' :: text)

/-- What may come at the end of a number. -/
inductive Exponent : List Char → Prop
  | absent : Exponent []
  | present {letter sign text} (marked : letter ∈ ['e', 'E'])
    (signed : sign ∈ [[], ['+'], ['-']]) (digits : Digits text)
    : Exponent (letter :: (sign ++ text))

/-- A number that is well formed, whatever its size. -/
inductive IsNumber : List Char → Prop
  | intro {sign first second third} (signed : sign ∈ [[], ['-']]) (whole : Whole first)
    (fraction : Fraction second) (exponent : Exponent third)
    : IsNumber (sign ++ (first ++ (second ++ third)))

-----------------------------------------------------------------------------------------
-- Values
-----------------------------------------------------------------------------------------

/-- A text of one value that is well formed, with nothing around it. -/
inductive WellFormed : List Char → Prop
  | word {text} (listed : text ∈ ["null".toList, "true".toList, "false".toList])
    : WellFormed text
  | number {text} (number : IsNumber text) : WellFormed text
  | string {text} (string : IsString text) : WellFormed text
  | list {items text} (written : ∀ item ∈ items, WellFormed item)
    (layout : Enclosed .list Padded items text)
    : WellFormed text
  | object {members text} (named : ∀ member ∈ members, IsString member.1)
    (written : ∀ member ∈ members, WellFormed member.2)
    (layout : Enclosed .object (Member Eq) members text)
    : WellFormed text

/-- A text that stands for the value, with nothing around it. -/
inductive Writes : Json → List Char → Prop
  | null : Writes .null "null".toList
  | bool (value : Bool) : Writes (.bool value) (if value then "true" else "false").toList
  | natural {value text} (whole : Whole text) (denotes : Numeral.Denotes 10 text value)
    : Writes (.natural value) text
  | string {value text} (string : WritesString value text) : Writes (.string value) text
  | list {values texts text} (written : List.Forall₂ Writes values texts)
    (layout : Enclosed .list Padded texts text)
    : Writes (.list values) text
  | object {members : List (String × Json)} {texts text}
    (written : List.Forall₂ Writes (members.map Prod.snd) texts)
    (layout : Enclosed .object (Member WritesString) ((members.map Prod.fst).zip texts) text)
    : Writes (.object members) text

/-- The text may stand for the value of the member, whose name goes with it. What may is given by a
property of texts.
-/
structure Admits (member : String × (List Char → Prop)) (item : String × List Char) : Prop where
  named : item.1 = member.1
  value : member.2 item.2

/-- An object with the given members, in any order, and perhaps with members of names that are not
known.
-/
inductive ObjectWith (known : List String) (members : List (String × (List Char → Prop)))
    : List Char → Prop
  | intro {own foreign written text}
    (values : List.Forall₂ Admits members own)
    (unknown : ∀ item ∈ foreign, item.1 ∉ known ∧ WellFormed item.2)
    (arranged : written.Perm (own ++ foreign))
    (layout : Enclosed .object (Member WritesString) written text)
    : ObjectWith known members text

/-- The members of an object. -/
def memberList : Json → List (String × Json)
  | .object members => members
  | _ => []

/-- A text of an object of which some members are left out. What may stand for the value of a member
is given by a property of texts.
-/
def WritesPart (value : Json) (omitted : Finset String) (Text : String → Json → List Char → Prop)
    : List Char → Prop :=
  ObjectWith (value.memberList.map Prod.fst)
    ((value.memberList.filter (·.1 ∉ omitted)).map fun member =>
      (member.1, Text member.1 member.2))

end Lexical.Json
