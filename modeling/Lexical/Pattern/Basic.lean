import Lexical.Scan

/-! Patterns that match at the start of a text, and how they match at a cursor. A pattern sees a
window of the characters ahead; a match that fills the window is tried again with a window twice
as wide, as long as there are more characters.
-/

namespace Lexical

/-- A pattern as it is written, with the length of its match at the start of a text. -/
structure Pattern where
  source : String
  extent? : List Char → Option Nat
  extent_le : ∀ text length, extent? text = some length → length ≤ text.length

namespace Pattern

/-- What makes patterns of texts, or says what is wrong with a text. -/
abbrev Compiler := String → Except String Pattern

/-- The text of a pattern that matches only at the start. -/
def anchored (text : String) : String :=
  "^(?:" ++ text ++ ")"

/-- The length of the match at the start of a text, unless it is empty. -/
def lexeme? (pattern : Pattern) (text : List Char) : Option Nat :=
  (pattern.extent? text).filter (0 < ·)

theorem lexeme?_bounds {pattern : Pattern} {text : List Char} {length : Nat}
    (h : pattern.lexeme? text = some length)
    : 0 < length ∧ length ≤ text.length := by
  obtain ⟨hextent, hpos⟩ := Option.filter_eq_some_iff.1 h
  exact ⟨by simpa using hpos, pattern.extent_le _ _ hextent⟩

/-- Where a match is seen through a window and there is more behind the window, less is behind one
that is twice as wide.
-/
theorem beyond_wider_lt {pattern : Pattern} {window length : Nat} {char : Char} {c : Cursor}
    (hseen : pattern.lexeme? (c.ahead window).1 = some length)
    (hbeyond : ((c.ahead window).2.peek window).1 = some char)
    : ((c.ahead window).2.peek window).2.remaining.length - 2 * window
      < c.remaining.length - window := by
  obtain ⟨hpos, hle⟩ := lexeme?_bounds hseen
  rw [Cursor.ahead_fst, List.length_take] at hle
  rw [Cursor.peek_fst, (c.resembles_ahead window).remaining] at hbeyond
  have hwindow := (List.getElem?_eq_some_iff.1 hbeyond).1
  rw [(Cursor.resembles_peek ..).remaining, (c.resembles_ahead window).remaining]
  omega

/-- The length of the match at a cursor, seen through a window that grows until the match ends
inside it or the input does.
-/
def matchLength (pattern : Pattern) (window : Nat) (c : Cursor) : Option Nat × Cursor :=
  let seen := c.ahead window
  match _hseen : pattern.lexeme? seen.1 with
  | none => (none, seen.2)
  | some length =>
    if length < window then (some length, seen.2)
    else
      let beyond := seen.2.peek window
      match hbeyond : beyond.1 with
      | none => (some length, beyond.2)
      | some _ => pattern.matchLength (2 * window) beyond.2
termination_by c.remaining.length - window
decreasing_by exact beyond_wider_lt _hseen hbeyond

/-- The length of the match at the start of a text, seen through a window that grows until the match
ends inside it or holds the whole text.
-/
def lengthWithin (pattern : Pattern) (window : Nat) (text : List Char) : Option Nat :=
  match hseen : pattern.lexeme? (text.take window) with
  | none => none
  | some length =>
    if _hinside : length < window ∨ text.length ≤ window then some length
    else pattern.lengthWithin (2 * window) text
termination_by text.length - window
decreasing_by
  have hpos := (lexeme?_bounds hseen).1
  have hle := (lexeme?_bounds hseen).2
  rw [List.length_take] at hle
  omega

theorem lengthWithin_eq (pattern : Pattern) (window : Nat) (text : List Char)
    : pattern.lengthWithin window text
      = match pattern.lexeme? (text.take window) with
        | none => none
        | some length =>
          if length < window ∨ text.length ≤ window then some length
          else pattern.lengthWithin (2 * window) text := by
  rw [lengthWithin]
  split <;> rename_i hseen <;> simp [hseen]

/-- At a cursor, what is measured is the text that remains. -/
theorem matchLength_fst (pattern : Pattern) (window : Nat) (c : Cursor)
    : (pattern.matchLength window c).1 = pattern.lengthWithin window c.remaining := by
  fun_induction matchLength with
  | case1 window c seen hseen =>
    rw [Cursor.ahead_fst] at hseen
    rw [lengthWithin_eq, hseen]
  | case2 window c seen length hseen hlt =>
    rw [Cursor.ahead_fst] at hseen
    simp [lengthWithin_eq, hseen, hlt]
  | case3 window c seen length hseen hlt beyond hbeyond =>
    rw [Cursor.ahead_fst] at hseen
    rw [Cursor.peek_fst, (c.resembles_ahead window).remaining, List.getElem?_eq_none_iff] at hbeyond
    simp [lengthWithin_eq, hseen, hbeyond]
  | case4 window c seen length hseen hlt beyond char hbeyond ih =>
    have hsame : beyond.2.remaining = c.remaining :=
      ((c.resembles_ahead window).trans (seen.2.resembles_peek window)).remaining
    rw [Cursor.ahead_fst] at hseen
    rw [Cursor.peek_fst, (c.resembles_ahead window).remaining] at hbeyond
    have hmore := (List.getElem?_eq_some_iff.1 hbeyond).1
    rw [ih, hsame]
    conv => rhs; rw [lengthWithin_eq, hseen]
    exact (if_neg (by omega)).symm

/-- Measuring a match only looks. -/
theorem resembles_matchLength (pattern : Pattern) (window : Nat) (c : Cursor)
    : c.Resembles (pattern.matchLength window c).2 := by
  fun_induction matchLength with
  | case1 => exact Cursor.resembles_ahead ..
  | case2 => exact Cursor.resembles_ahead ..
  | case3 => exact (Cursor.resembles_ahead ..).trans (Cursor.resembles_peek ..)
  | case4 =>
    rename_i ih
    exact (Cursor.resembles_ahead ..).trans ((Cursor.resembles_peek ..).trans ih)

/-- The length of the match at the cursor. -/
def measure (pattern : Pattern) (window : Nat) : Scan (Option Nat) where
  run c := pattern.matchLength window c
  reaches c := (pattern.resembles_matchLength window c).reaches
  respects {c d} h :=
    ⟨by rw [matchLength_fst, matchLength_fst, h.remaining],
      ((pattern.resembles_matchLength window c).symm.trans h).trans
        (pattern.resembles_matchLength window d)⟩

end Pattern

end Lexical
