import Lexical.Position

/-! Places along a text. Going on in a text always leads to a later place; a line feed starts a new
line and every other character a new column. Places counted from the start of a text can be moved
to where that text stands inside another one.
-/

namespace Lexical.Position

-----------------------------------------------------------------------------------------
-- The order of places
-----------------------------------------------------------------------------------------

/-- The first place is earlier in a text: on an earlier line, or further left on the same line. -/
def Before (place other : Position) : Prop :=
  place.line < other.line ∨ place.line = other.line ∧ place.column < other.column

theorem Before.trans {first second third : Position} (h : first.Before second)
    (k : second.Before third)
    : first.Before third := by
  simp only [Before] at *
  omega

theorem not_before_self (place : Position) : ¬place.Before place := by
  simp only [Before]
  omega

theorem before_advance (place : Position) (c : Char) : place.Before (place.advance c) := by
  unfold advance
  split
  · exact .inl (Nat.lt_succ_self _)
  · exact .inr ⟨rfl, Nat.lt_succ_self _⟩

/-- Behind some characters the place is later, by induction over them. -/
theorem before_advanceOver (place : Position) {taken : List Char} (some : taken ≠ [])
    : place.Before (place.advanceOver taken) := by
  induction taken generalizing place with
  | nil => exact (some rfl).elim
  | cons c rest ih =>
      have hnext := place.before_advance c
      cases rest with
      | nil => exact hnext
      | cons d others => exact hnext.trans (ih (place.advance c) (List.cons_ne_nil d others))

/-- Of two offsets in a text, the larger one has the later place. -/
theorem before_of_lt (place : Position) {text : List Char} {first second : Nat}
    (less : first < second) (inside : second ≤ text.length)
    : (place.advanceOver (text.take first)).Before (place.advanceOver (text.take second)) := by
  have hsplit : text.take second
      = text.take first ++ (text.drop first).take (second - first) := by
    rw [← List.take_add, Nat.add_sub_cancel' (Nat.le_of_lt less)]
  have hsome : (text.drop first).take (second - first) ≠ [] := by
    apply List.ne_nil_of_length_pos
    rw [List.length_take, List.length_drop]
    omega
  rw [hsplit, advanceOver_append]
  exact before_advanceOver _ hsome

/-- In a text every offset has a place of its own. -/
theorem eq_of_advanceOver_take_eq (place : Position) {text : List Char} {first second : Nat}
    (hfirst : first ≤ text.length) (hsecond : second ≤ text.length)
    (same : place.advanceOver (text.take first) = place.advanceOver (text.take second))
    : first = second := by
  rcases Nat.lt_trichotomy first second with less | equal | greater
  · exact (not_before_self _ (same ▸ place.before_of_lt less hsecond)).elim
  · exact equal
  · exact (not_before_self _ (same ▸ place.before_of_lt greater hfirst)).elim

-----------------------------------------------------------------------------------------
-- Lines and columns
-----------------------------------------------------------------------------------------

@[simp] theorem source_advanceOver (place : Position) (taken : List Char)
    : (place.advanceOver taken).source = place.source := by
  induction taken generalizing place with
  | nil => rfl
  | cons c rest ih => rw [advanceOver_cons, ih, source_advance]

/-- Every line feed starts a line, by induction over the characters. -/
theorem line_advanceOver (place : Position) (taken : List Char)
    : (place.advanceOver taken).line = place.line + taken.count '\n' := by
  induction taken generalizing place with
  | nil => rfl
  | cons c rest ih =>
      rw [advanceOver_cons, ih, List.count_cons, advance]
      by_cases h : c = '\n'
      · simp only [h, if_true, beq_self_eq_true]
        omega
      · simp only [h, if_false, beq_iff_eq, Nat.add_zero]

/-- Within a line every character counts for a column. -/
theorem advanceOver_of_unbroken (place : Position) {taken : List Char} (unbroken : '\n' ∉ taken)
    : place.advanceOver taken = { place with column := place.column + taken.length } := by
  induction taken generalizing place with
  | nil => rfl
  | cons c rest ih =>
      simp only [List.mem_cons, not_or] at unbroken
      obtain ⟨hc, hrest⟩ := unbroken
      rw [advanceOver_cons, ih _ hrest, advance, if_neg (Ne.symm hc), List.length_cons,
        Nat.add_assoc, Nat.add_comm 1]

-----------------------------------------------------------------------------------------
-- Counting in 32 bits
-----------------------------------------------------------------------------------------

/-- The counter that moves at a character: the line at a line feed, the column at any other. -/
def counter (place : Position) (c : Char) : Nat :=
  if c = '\n' then place.line else place.column

/-- The checked addition comes to the place after the character or, at the limit, to none. -/
theorem advance?_eq (place : Position) (c : Char)
    : place.advance? c
      = if place.counter c + 1 < counterLimit then some (place.advance c) else none := by
  unfold advance? increment? advance counter
  by_cases hfeed : c = '\n'
  · by_cases within : place.line + 1 < counterLimit <;> simp [hfeed, within]
  · by_cases within : place.column + 1 < counterLimit <;> simp [hfeed, within]

theorem advanceOver?_cons (place : Position) (c : Char) (rest : List Char)
    : place.advanceOver? (c :: rest)
      = if place.counter c + 1 < counterLimit then (place.advance c).advanceOver? rest
        else none := by
  rw [advanceOver?, List.foldlM_cons, advance?_eq]
  split <;> rfl

/-- Counting goes character by character, each within the limit. -/
theorem countsOver_cons_iff {place : Position} {c : Char} {rest : List Char}
    : place.CountsOver (c :: rest)
      ↔ place.counter c + 1 < counterLimit ∧ (place.advance c).CountsOver rest := by
  rw [CountsOver, advanceOver?_cons, advanceOver_cons]
  by_cases within : place.counter c + 1 < counterLimit
  · rw [if_pos within, CountsOver, and_iff_right within]
  · rw [if_neg within]
    exact iff_of_false nofun (fun h => within h.1)

/-- Where no counter runs over along a text, none does along its beginning, nor behind that; by
induction over the beginning.
-/
theorem CountsOver.split {place : Position} {first second : List Char}
    (counts : place.CountsOver (first ++ second))
    : place.CountsOver first ∧ (place.advanceOver first).CountsOver second := by
  induction first generalizing place with
  | nil => exact ⟨rfl, counts⟩
  | cons c rest ih =>
      obtain ⟨within, counts⟩ := countsOver_cons_iff.1 counts
      obtain ⟨hfirst, hsecond⟩ := ih counts
      exact ⟨countsOver_cons_iff.2 ⟨within, hfirst⟩, hsecond⟩

theorem CountsOver.of_prefix {place : Position} {first text : List Char}
    (counts : place.CountsOver text) (starts : first <+: text)
    : place.CountsOver first := by
  obtain ⟨second, rfl⟩ := starts
  exact counts.split.1

/-- What is counted from a later line and column is counted from earlier ones, by induction over the
text: after a character they are still earlier.
-/
theorem CountsOver.of_le {place other : Position} {text : List Char}
    (counts : other.CountsOver text) (line : place.line ≤ other.line)
    (column : place.column ≤ other.column)
    : place.CountsOver text := by
  induction text generalizing place other with
  | nil => rfl
  | cons c rest ih =>
      obtain ⟨within, counts⟩ := countsOver_cons_iff.1 counts
      have hcounter : place.counter c ≤ other.counter c := by
        unfold counter
        split
        · exact line
        · exact column
      have hnext : (place.advance c).line ≤ (other.advance c).line
          ∧ (place.advance c).column ≤ (other.advance c).column := by
        unfold advance
        split
        · exact ⟨Nat.succ_le_succ line, Nat.le_refl 1⟩
        · exact ⟨line, Nat.succ_le_succ column⟩
      exact countsOver_cons_iff.2 ⟨by omega, ih counts hnext.1 hnext.2⟩

-----------------------------------------------------------------------------------------
-- Moving places
-----------------------------------------------------------------------------------------

/-- A place counted from the start of a text, where that text starts at the given place of another
one: the first line goes on behind that place, and the other lines are below it.
-/
def relocate (base place : Position) : Position :=
  if place.line = 1 then { base with column := base.column + place.column - 1 }
  else { base with line := base.line + place.line - 1, column := place.column }

/-- The place so many lines further down. -/
def lower (count : Nat) (place : Position) : Position :=
  { place with line := place.line + count }

theorem relocate_advance (base : Position) {place : Position} (hline : 1 ≤ place.line)
    (hcolumn : 1 ≤ place.column) (c : Char)
    : base.relocate (place.advance c) = (base.relocate place).advance c := by
  by_cases hfeed : c = '\n' <;> by_cases hfirst : place.line = 1
  · simp only [relocate, advance, hfeed, hfirst, if_true, Nat.reduceAdd, Nat.reduceEqDiff,
      if_false]
    rfl
  · have hnext : place.line + 1 ≠ 1 := by omega
    have hbelow : base.line + (place.line + 1) - 1 = base.line + place.line - 1 + 1 := by omega
    simp only [relocate, advance, hfeed, hfirst, hnext, hbelow, if_true, if_false]
  · have hbeside : base.column + (place.column + 1) - 1 = base.column + place.column - 1 + 1 := by
      omega
    simp only [relocate, advance, hfeed, hfirst, hbeside, if_true, if_false]
  · simp only [relocate, advance, hfeed, hfirst, if_false]

theorem one_le_advance {place : Position} (hline : 1 ≤ place.line) (c : Char)
    : 1 ≤ (place.advance c).line ∧ 1 ≤ (place.advance c).column := by
  unfold advance
  split
  · exact ⟨Nat.le_add_left .., Nat.le_refl 1⟩
  · exact ⟨hline, Nat.le_add_left ..⟩

/-- Moving commutes with going on, by induction over the text. -/
theorem relocate_advanceOver (base : Position) {place : Position} (hline : 1 ≤ place.line)
    (hcolumn : 1 ≤ place.column) (taken : List Char)
    : base.relocate (place.advanceOver taken) = (base.relocate place).advanceOver taken := by
  induction taken generalizing place with
  | nil => rfl
  | cons c rest ih =>
      have hnext := one_le_advance hline c
      rw [advanceOver_cons, advanceOver_cons, ih hnext.1 hnext.2,
        relocate_advance base hline hcolumn]

/-- What is counted from the start of a text is moved to where the text is taken from the base. -/
theorem relocate_advanceOver_start (base : Position) (name : String) (taken : List Char)
    : base.relocate ((start name).advanceOver taken) = base.advanceOver taken := by
  rw [relocate_advanceOver base (Nat.le_refl 1) (Nat.le_refl 1)]
  rfl

/-- Lines and columns are counted from 1, which every step keeps. -/
theorem one_le_advanceOver {place : Position} (hline : 1 ≤ place.line) (hcolumn : 1 ≤ place.column)
    (taken : List Char)
    : 1 ≤ (place.advanceOver taken).line ∧ 1 ≤ (place.advanceOver taken).column := by
  induction taken generalizing place with
  | nil => exact ⟨hline, hcolumn⟩
  | cons c rest ih =>
      obtain ⟨hline, hcolumn⟩ := one_le_advance hline c
      exact ih hline hcolumn

/-- Wherever the text leads from the first place, counted in 32 bits, it leads from the second one
to that place moved.
-/
def MovesOver (f : Position → Position) (place other : Position) (text : List Char) : Prop :=
  ∀ taken,
    taken <+: text
    → ∃ between,
        place.advanceOver? taken = some between ∧ other.advanceOver? taken = some (f between)

/-- Places that are moved without a limit are moved within it, along a text that is counted. -/
theorem movesOver_of_along {f : Position → Position} {place other : Position} {text : List Char}
    (along : ∀ taken, other.advanceOver taken = f (place.advanceOver taken))
    (counts : place.CountsOver text) (counts' : other.CountsOver text)
    : MovesOver f place other text := by
  intro taken starts
  refine ⟨_, counts.of_prefix starts, ?_⟩
  rw [counts'.of_prefix starts, along]

theorem lower_advanceOver (count : Nat) (place : Position) (taken : List Char)
    : lower count (place.advanceOver taken) = (lower count place).advanceOver taken := by
  induction taken generalizing place with
  | nil => rfl
  | cons c rest ih =>
      have hnext : lower count (place.advance c) = (lower count place).advance c := by
        by_cases hfeed : c = '\n'
        · simp only [lower, advance, hfeed, if_true, Nat.add_right_comm]
        · simp only [lower, advance, hfeed, if_false]
      rw [advanceOver_cons, advanceOver_cons, ih, hnext]

end Lexical.Position
