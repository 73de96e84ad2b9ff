/-! Places in a named source. Lines and columns count characters from 1, and consuming a character
moves to the next column, or to the start of the next line after a line feed. Both are held in 32
bits: places are counted on as if there was no limit to them, and beside this stands the same
addition with the limit checked, which comes to no place where a counter would run over.
-/

namespace Lexical

/-- The place of a character: the name of its source, its line and its column. -/
structure Position where
  source : String
  line : Nat
  column : Nat
deriving DecidableEq, Repr

namespace Position

/-- The name of a source that has no other name. -/
def anonymousSource : String := "<string>"

/-- The place of the first character of a source. -/
def start (source : String) : Position := ⟨source, 1, 1⟩

/-- The place after a character at this place. -/
def advance (place : Position) (c : Char) : Position :=
  if c = '\n' then { place with line := place.line + 1, column := 1 }
  else { place with column := place.column + 1 }

/-- The place after a run of characters that begins at this place. -/
def advanceOver (place : Position) (taken : List Char) : Position :=
  taken.foldl advance place

/-- The numbers below this one are held in 32 bits. -/
def counterLimit : Nat := UInt32.size

/-- The number after this one, if 32 bits hold it. -/
def increment? (number : Nat) : Option Nat :=
  if number + 1 < counterLimit then some (number + 1) else none

/-- The place after a character at this place, if the counter that moves does not run over. -/
def advance? (place : Position) (c : Char) : Option Position :=
  if c = '\n' then (increment? place.line).map fun line => { place with line, column := 1 }
  else (increment? place.column).map fun column => { place with column }

/-- The place after a run of characters, if no counter runs over on the way. -/
def advanceOver? (place : Position) (taken : List Char) : Option Position :=
  taken.foldlM advance? place

/-- Along the text no counter runs over, so that the checked addition comes to the place behind it.
-/
def CountsOver (place : Position) (text : List Char) : Prop :=
  place.advanceOver? text = some (place.advanceOver text)

instance (place : Position) (text : List Char) : Decidable (place.CountsOver text) :=
  inferInstanceAs (Decidable (_ = _))

@[simp] theorem advanceOver_nil (place : Position) : place.advanceOver [] = place := rfl

@[simp] theorem advanceOver_cons (place : Position) (c : Char) (taken : List Char)
    : place.advanceOver (c :: taken) = (place.advance c).advanceOver taken := rfl

theorem advanceOver_append (place : Position) (first second : List Char)
    : place.advanceOver (first ++ second) = (place.advanceOver first).advanceOver second :=
  List.foldl_append

@[simp] theorem source_advance (place : Position) (c : Char)
    : (place.advance c).source = place.source := by
  unfold advance
  split <;> rfl

/-- The place written as `source:line:column`. -/
def display (place : Position) : String :=
  place.source ++ ":" ++ place.line.repr ++ ":" ++ place.column.repr

end Position

end Lexical
