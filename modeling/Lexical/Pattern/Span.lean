/-! Places in the text of a pattern, and stretches between two of them. -/

namespace Lexical.Pattern

/-- A place in a pattern: the bytes before it, its line and its column, the last two from 1. -/
structure Place where
  offset : Nat := 0
  line : Nat := 1
  column : Nat := 1
deriving DecidableEq, Repr

/-- The place behind a character. -/
def Place.advance (place : Place) (c : Char) : Place :=
  if c = '\n' then ⟨place.offset + c.utf8Size, place.line + 1, 1⟩
  else ⟨place.offset + c.utf8Size, place.line, place.column + 1⟩

/-- A stretch of a pattern, up to but without its end. -/
structure Span where
  start : Place
  stop : Place
deriving DecidableEq, Repr

namespace Span

/-- The empty stretch at a place. -/
def empty (place : Place) : Span := ⟨place, place⟩

/-- Whether the stretch begins and ends on one line. -/
def isOneLine (span : Span) : Bool :=
  span.start.line == span.stop.line

/-- The order of stretches by their start, then by their end. -/
def le (a b : Span) : Bool :=
  a.start.offset < b.start.offset
    || (a.start.offset == b.start.offset && a.stop.offset ≤ b.stop.offset)

end Span

end Lexical.Pattern
