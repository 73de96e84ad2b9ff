import Lexical.Text.CharSet

/-! Tables of characters in a compact form: for each range the gap before it and, behind a plus
sign, how far it goes on, both in hexadecimal.
-/

namespace Lexical.Pattern.Property

/-- The characters of a property value, with its names in lower case and without separators. -/
structure Table where
  names : List String
  rows : List String

/-- Where reading a table stands: the code point behind the last range, the number that is being
read, the gap before it if there is one, and the ranges so far, the latest first.
-/
structure Decoding where
  next : Nat := 0
  number : Nat := 0
  gap? : Option Nat := none
  ranges : List (Nat × Nat) := []

/-- Completes the range that is being read. -/
def Decoding.complete (state : Decoding) : Decoding :=
  let (gap, more) :=
    match state.gap? with
    | some gap => (gap, state.number)
    | none => (state.number, 0)
  let first := state.next + gap
  { next := first + more + 1, ranges := (first, first + more) :: state.ranges }

/-- The value of a lower-case hexadecimal digit. -/
def hexDigit (c : Char) : Nat :=
  if c ≤ '9' then c.toNat - '0'.toNat else c.toNat - 'a'.toNat + 10

/-- Reads one character of a table. -/
def Decoding.step (state : Decoding) (c : Char) : Decoding :=
  if c = ' ' then state.complete
  else if c = '+' then { state with gap? := some state.number, number := 0 }
  else { state with number := 16 * state.number + hexDigit c }

/-- Reads a row of a table, in which blanks stand between ranges. -/
def Decoding.readRow (state : Decoding) (row : String) : Decoding :=
  (row.toList.foldl Decoding.step state).complete

/-- The characters that the rows of a table list. -/
def decode (rows : List String) : CharSet :=
  ⟨(rows.foldl Decoding.readRow {}).ranges.reverse⟩

/-- The characters of the table with a name. -/
def find? (tables : List Table) (name : String) : Option CharSet :=
  (tables.find? (·.names.contains name)).map fun table => decode table.rows

end Lexical.Pattern.Property
