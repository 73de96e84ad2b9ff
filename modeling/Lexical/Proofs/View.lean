import Lexical.Pattern.Basic
import Mathlib.Data.List.TakeWhile

/-! What a cursor shows, as a state of its own: a list of characters, a place and a count. A scan
acts on such states as it does on cursors, whatever was read ahead, so that what a scan does can
be computed without a source.
-/

namespace Lexical

-----------------------------------------------------------------------------------------
-- Views and the cursors that show them
-----------------------------------------------------------------------------------------

/-- The characters that were not consumed, the place of the first of them, and the number of
characters that were.
-/
structure View where
  remaining : List Char
  origin : Position
  consumed : Nat
deriving DecidableEq, Repr

namespace View

/-- The view behind so many characters, or behind all of them if there are fewer. -/
def skip (count : Nat) (v : View) : View where
  remaining := v.remaining.drop count
  origin := v.origin.advanceOver (v.remaining.take count)
  consumed := v.consumed + (v.remaining.take count).length

/-- A cursor that shows the view and has nothing read ahead. -/
def cursor (v : View) : Cursor where
  source := { pending := v.remaining.map some }
  origin := v.origin
  consumed := v.consumed

@[simp] theorem remaining_skip (count : Nat) (v : View)
    : (v.skip count).remaining = v.remaining.drop count :=
  rfl

@[simp] theorem skip_zero (v : View) : v.skip 0 = v := rfl

theorem skip_of_nil {v : View} (h : v.remaining = []) (count : Nat) : v.skip count = v := by
  obtain ⟨remaining, origin, consumed⟩ := v
  subst h
  simp [skip]

/-- Skipping twice is skipping the sum, by the split of a longer prefix into two. -/
@[simp] theorem skip_skip (first second : Nat) (v : View)
    : (v.skip first).skip second = v.skip (first + second) := by
  simp only [skip, List.take_add, List.drop_drop, Position.advanceOver_append,
    List.length_append, Nat.add_assoc]

end View

/-- What the cursor shows. -/
def Cursor.view (c : Cursor) : View :=
  ⟨c.remaining, c.origin, c.consumed⟩

@[simp] theorem Cursor.remaining_view (c : Cursor) : c.view.remaining = c.remaining := rfl

@[simp] theorem Cursor.origin_view (c : Cursor) : c.view.origin = c.origin := rfl

@[simp] theorem Cursor.consumed_view (c : Cursor) : c.view.consumed = c.consumed := rfl

@[simp] theorem View.view_cursor (v : View) : v.cursor.view = v := by
  simp [Cursor.view, View.cursor, Cursor.remaining, Source.remaining]

/-- Cursors resemble each other where their views are the same. -/
theorem Cursor.resembles_iff_view_eq {c d : Cursor} : c.Resembles d ↔ d.view = c.view := by
  constructor
  · intro h
    simp only [Cursor.view, h.remaining, h.origin, h.consumed]
  · intro h
    obtain ⟨remaining, origin, consumed⟩ := View.mk.inj h
    exact ⟨remaining, origin, consumed⟩

theorem Cursor.Resembles.view {c d : Cursor} (h : c.Resembles d) : d.view = c.view :=
  Cursor.resembles_iff_view_eq.1 h

/-- Stepping over characters skips as many in the view. -/
theorem Cursor.StepsOver.view {c d : Cursor} {taken : List Char} (h : c.StepsOver taken d)
    : d.view = c.view.skip taken.length := by
  simp [Cursor.view, View.skip, h.remaining, h.origin, h.consumed]

/-- Stepping over a prefix of so many characters skips so many, or as many as there are. -/
theorem Cursor.StepsOver.view_take {c d : Cursor} {count : Nat}
    (h : c.StepsOver (c.remaining.take count) d)
    : d.view = c.view.skip count := by
  have hrest : d.remaining = c.remaining.drop count := by
    have hsplit := h.remaining
    conv at hsplit => lhs; rw [← List.take_append_drop count c.remaining]
    exact (List.append_cancel_left hsplit).symm
  simp only [Cursor.view, View.skip, hrest, h.origin, h.consumed]

/-- Skipping so many characters is stepping over them, or over all if there are fewer. -/
theorem Cursor.stepsOver_take_of_view {c d : Cursor} {count : Nat}
    (shows : d.view = c.view.skip count)
    : c.StepsOver (c.remaining.take count) d := by
  obtain ⟨hremaining, horigin, hconsumed⟩ := View.mk.inj shows
  refine ⟨?_, horigin, hconsumed⟩
  rw [hremaining, remaining_view, List.take_append_drop]

/-- Skipping as many characters as begin what remains is stepping over them. -/
theorem Cursor.stepsOver_of_view {c d : Cursor} {taken : List Char} (begins : taken <+: c.remaining)
    (shows : d.view = c.view.skip taken.length)
    : c.StepsOver taken d := by
  have hstep := stepsOver_take_of_view shows
  rwa [← List.prefix_iff_eq_take.1 begins] at hstep

/-- What is stepped over is settled by where it leads. -/
theorem Cursor.StepsOver.unique {c d : Cursor} {taken taken' : List Char}
    (h : c.StepsOver taken d) (h' : c.StepsOver taken' d)
    : taken' = taken :=
  List.append_cancel_right (h'.remaining.symm.trans h.remaining)

/-- A view reached by stepping is the start less its first characters, by the definition of
stepping.
-/
theorem Cursor.Reaches.view {c d : Cursor} (h : c.Reaches d)
    : ∃ taken,
        c.view.remaining = taken ++ d.view.remaining
        ∧ d.view.origin = c.view.origin.advanceOver taken
        ∧ d.view.consumed = c.view.consumed + taken.length := by
  obtain ⟨taken, h⟩ := h
  exact ⟨taken, h.remaining, h.origin, h.consumed⟩

-----------------------------------------------------------------------------------------
-- Scans on views
-----------------------------------------------------------------------------------------

namespace Scan

/-- What a scan does to a view: what it does to a cursor that shows it. -/
def onView (scan : Scan α) (v : View) : α × View :=
  let (result, rest) := scan.run v.cursor
  (result, rest.view)

/-- A scan does the same to a cursor and to its view. Witness: the cursor resembles the one
with nothing read ahead, and a scan respects that.
-/
theorem onView_view (scan : Scan α) (c : Cursor)
    : scan.onView c.view = ((scan.run c).1, (scan.run c).2.view) := by
  have h : c.Resembles c.view.cursor := Cursor.resembles_iff_view_eq.2 (View.view_cursor _)
  obtain ⟨result, rest⟩ := scan.respects h
  exact Prod.ext result rest.view

theorem fst_run (scan : Scan α) (c : Cursor) : (scan.run c).1 = (scan.onView c.view).1 := by
  rw [onView_view]

theorem view_run (scan : Scan α) (c : Cursor)
    : (scan.run c).2.view = (scan.onView c.view).2 := by
  rw [onView_view]

/-- To know a scan on views it is enough to know it on the cursors that show them. -/
theorem onView_eq_of_run {scan : Scan α} (action : View → α × View)
    (h : ∀ c, ((scan.run c).1, (scan.run c).2.view) = action c.view) (v : View)
    : scan.onView v = action v := by
  rw [← View.view_cursor v, onView_view]
  exact h v.cursor

@[simp] theorem onView_pure (result : α) (v : View)
    : (pure result : Scan α).onView v = (result, v) :=
  onView_eq_of_run (fun v => (result, v)) (fun _ => rfl) v

@[simp] theorem onView_bind (first : Scan α) (next : α → Scan β) (v : View)
    : (first >>= next).onView v = (next (first.onView v).1).onView (first.onView v).2 := by
  refine onView_eq_of_run
    (fun v => (next (first.onView v).1).onView (first.onView v).2) ?_ v
  intro c
  rw [run_bind, onView_view first, onView_view]

@[simp] theorem onView_map (f : α → β) (scan : Scan α) (v : View)
    : (f <$> scan).onView v = (f (scan.onView v).1, (scan.onView v).2) :=
  rfl

@[simp] theorem onView_discard (scan : Scan α) (v : View)
    : (discard scan).onView v = ((), (scan.onView v).2) :=
  rfl

@[simp] theorem onView_origin (v : View) : origin.onView v = (v.origin, v) :=
  onView_eq_of_run (fun v => (v.origin, v)) (fun _ => rfl) v

@[simp] theorem onView_consumed (v : View) : consumed.onView v = (v.consumed, v) :=
  onView_eq_of_run (fun v => (v.consumed, v)) (fun _ => rfl) v

@[simp] theorem onView_ahead (count : Nat) (v : View)
    : (ahead count).onView v = (v.remaining.take count, v) := by
  refine onView_eq_of_run (fun v => (v.remaining.take count, v)) ?_ v
  intro c
  exact Prod.ext (c.ahead_fst count) (c.resembles_ahead count).view

@[simp] theorem onView_peek (offset : Nat) (v : View)
    : (peek offset).onView v = (v.remaining[offset]?, v) := by
  refine onView_eq_of_run (fun v => (v.remaining[offset]?, v)) ?_ v
  intro c
  exact Prod.ext (c.peek_fst offset) (c.resembles_peek offset).view

@[simp] theorem onView_take (count : Nat) (v : View)
    : (take count).onView v = (v.remaining.take count, v.skip count) := by
  refine onView_eq_of_run (fun v => (v.remaining.take count, v.skip count)) ?_ v
  intro c
  exact Prod.ext (c.take_fst count) (c.stepsOver_take count).view_take

@[simp] theorem onView_next (v : View)
    : next.onView v = (v.remaining.head?, v.skip 1) := by
  refine onView_eq_of_run (fun v => (v.remaining.head?, v.skip 1)) ?_ v
  intro c
  exact Prod.ext c.next_fst (c.stepsOver_take 1).view_take

@[simp] theorem onView_walk {σ : Type u} {α : Type v} (move : σ → Char → Move σ α)
    (atEnd : σ → α) (state : σ) (v : View)
    : (walk move atEnd state).onView v
      = ((Cursor.walkText move atEnd state v.remaining).1,
          v.skip (Cursor.walkText move atEnd state v.remaining).2) := by
  refine onView_eq_of_run
    (fun v =>
      ((Cursor.walkText move atEnd state v.remaining).1,
        v.skip (Cursor.walkText move atEnd state v.remaining).2)) ?_ v
  intro c
  obtain ⟨result, rest⟩ := c.walk_spec move atEnd state
  exact Prod.ext result rest.view_take

@[simp] theorem onView_measure (pattern : Pattern) (window : Nat) (v : View)
    : (pattern.measure window).onView v = (pattern.lengthWithin window v.remaining, v) := by
  refine onView_eq_of_run
    (fun v => (pattern.lengthWithin window v.remaining, v)) ?_ v
  intro c
  exact Prod.ext (pattern.matchLength_fst window c) (pattern.resembles_matchLength window c).view

-----------------------------------------------------------------------------------------
-- Tests and runs of characters
-----------------------------------------------------------------------------------------

@[simp] theorem onView_atEnd (v : View) : atEnd.onView v = (v.remaining.isEmpty, v) := by
  cases h : v.remaining <;> simp [atEnd, h]

@[simp] theorem onView_sees (expected : Char) (v : View)
    : (sees expected).onView v = (v.remaining.head? == some expected, v) := by
  simp [sees, List.head?_eq_getElem?]

@[simp] theorem onView_seesWhere (test : Char → Bool) (v : View)
    : (seesWhere test).onView v = (v.remaining.head?.any test, v) := by
  simp [seesWhere, List.head?_eq_getElem?]

/-- A word is spelt where it begins what remains, though it is the whole length that is looked
at.
-/
@[simp] theorem onView_spells (word : List Char) (v : View)
    : (spells word).onView v = (word.isPrefixOf v.remaining, v) := by
  have h : (v.remaining.take word.length == word) = word.isPrefixOf v.remaining := by
    rw [Bool.eq_iff_iff, beq_iff_eq, List.isPrefixOf_iff_prefix, List.prefix_iff_eq_take]
    exact eq_comm
  simp [spells, h]

/-- Taking while a test holds walks over the longest such prefix. Witness: induction over the
text, with what was taken so far as the state of the walk.
-/
theorem walkText_takeWhile (test : Char → Bool) (taken text : List Char)
    : Cursor.walkText
        (fun taken c => if test c then .take (c :: taken) else .leave taken.reverse)
        List.reverse taken text
      = (taken.reverse ++ text.takeWhile test, (text.takeWhile test).length) := by
  induction text generalizing taken with
  | nil => simp [Cursor.walkText]
  | cons c rest ih =>
      cases h : test c with
      | false => simp [Cursor.walkText, h]
      | true => simp [Cursor.walkText, h, ih]

@[simp] theorem onView_takeWhile (test : Char → Bool) (v : View)
    : (takeWhile test).onView v
      = (v.remaining.takeWhile test, v.skip (v.remaining.takeWhile test).length) := by
  simp [takeWhile, walkText_takeWhile]

@[simp] theorem onView_takeUntil (test : Char → Bool) (v : View)
    : (takeUntil test).onView v
      = (v.remaining.takeWhile (!test ·), v.skip (v.remaining.takeWhile (!test ·)).length) :=
  onView_takeWhile ..

@[simp] theorem onView_takeRest (v : View)
    : takeRest.onView v = (v.remaining, v.skip v.remaining.length) := by
  have h : v.remaining.takeWhile (fun _ => true) = v.remaining :=
    List.takeWhile_eq_self_iff.2 (fun _ _ => rfl)
  simp [takeRest, h]

end Scan

-----------------------------------------------------------------------------------------
-- Walks that come to the end
-----------------------------------------------------------------------------------------

/-- A walk can as well give the state in which it came to the end, to be made a result of later, by
induction over the text.
-/
theorem Cursor.walkText_map_inl {σ : Type u} {α : Type v} (move : σ → Char → Move σ α)
    (atEnd : σ → α) (state : σ) (text : List Char)
    : let reached := walkText (fun state c => (move state c).map Sum.inl) Sum.inr state text
      (reached.1.elim id atEnd, reached.2) = walkText move atEnd state text := by
  induction text generalizing state with
  | nil => rfl
  | cons c rest ih => cases hmove : move state c <;> simp [walkText, hmove, ← ih]

/-- A walk that comes to the end has taken the whole text. -/
theorem Cursor.length_of_walkText_inr {σ : Type u} {α : Type v} {move : σ → Char → Move σ α}
    {state last : σ} {text : List Char} {count : Nat}
    (ended
      : walkText (fun state c => (move state c).map Sum.inl) Sum.inr state text
        = (Sum.inr last, count))
    : count = text.length := by
  induction text generalizing state count with
  | nil => exact (Prod.mk.inj ended).2.symm
  | cons c rest ih =>
      cases hmove : move state c with
      | leave result => simp [walkText, hmove] at ended
      | last result => simp [walkText, hmove] at ended
      | take next =>
          simp only [walkText, hmove, Move.map_take, Prod.mk.injEq] at ended
          obtain ⟨hlast, rfl⟩ := ended
          exact congrArg (· + 1) (ih (Prod.ext hlast rfl))

end Lexical
