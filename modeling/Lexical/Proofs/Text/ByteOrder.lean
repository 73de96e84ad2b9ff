import Mathlib.Data.List.Basic

/-! The order of texts by their bytes. In UTF-8 a character with a greater code has greater bytes,
in the first place where the bytes of the two differ, and texts compare by their bytes as they do by
their characters.
-/

namespace Lexical.Text

-----------------------------------------------------------------------------------------
-- Bytes that differ
-----------------------------------------------------------------------------------------

/-- The bytes of a text in UTF-8. -/
def bytes (text : String) : List UInt8 :=
  text.toByteArray.data.toList

/-- Of two lists of bytes the first is less in a place that both have. -/
inductive LessWithin : List UInt8 → List UInt8 → Prop
  | here {a b first second} (less : a < b) : LessWithin (a :: first) (b :: second)
  | later {a first second} (less : LessWithin first second)
    : LessWithin (a :: first) (a :: second)

/-- What is put behind either list is of no account, by induction over the place. -/
theorem LessWithin.append {first second : List UInt8} (h : LessWithin first second)
    (more more' : List UInt8)
    : first ++ more < second ++ more' := by
  induction h with
  | here less => exact List.cons_lt_cons_iff.2 (.inl less)
  | later _ ih => exact List.cons_lt_cons_iff.2 (.inr ⟨rfl, ih⟩)

end Lexical.Text
