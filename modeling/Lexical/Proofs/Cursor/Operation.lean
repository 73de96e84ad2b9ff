import Lexical.Proofs.Recognizer.Reading

/-! Histories of a cursor: whatever is asked of it and consumed from it, in any order, the answers
are those of a plain list of characters with a place and a count. Reading ahead, the end of the
source and the questions that were asked before leave no trace in them.
-/

namespace Lexical

-----------------------------------------------------------------------------------------
-- Operations on a cursor and on a list
-----------------------------------------------------------------------------------------

/-- A question to a cursor or a step on it. -/
inductive Operation where
  | peek (offset : Nat)
  | next
  | sees (expected : Char)
  | spells (word : List Char)
  | atEnd
  | takeWhile (test : Char → Bool)
  | takeUntil (test : Char → Bool)
  | takeRest
  | origin
  | consumed
  | canStart (recognizer : Recognizer)
  | consume (recognizer : Recognizer)

/-- What an operation gives. -/
inductive Answer where
  | character (found : Option Char)
  | verdict (holds : Bool)
  | text (taken : List Char)
  | place (position : Position)
  | count (number : Nat)
  | recognition (answer : Except Failure (Option Token))

/-- The view of a source that nothing was consumed of. -/
def View.start (name : String) (input : List Char) : View :=
  ⟨input, Position.start name, 0⟩

namespace Operation

/-- The operation on a cursor. -/
def scan : Operation → Scan Answer
  | peek offset => .character <$> Scan.peek offset
  | next => .character <$> Scan.next
  | sees expected => .verdict <$> Scan.sees expected
  | spells word => .verdict <$> Scan.spells word
  | atEnd => .verdict <$> Scan.atEnd
  | takeWhile test => .text <$> Scan.takeWhile test
  | takeUntil test => .text <$> Scan.takeUntil test
  | takeRest => .text <$> Scan.takeRest
  | origin => .place <$> Scan.origin
  | consumed => .count <$> Scan.consumed
  | canStart recognizer => .verdict <$> recognizer.canStart
  | consume recognizer => .recognition <$> recognizer.consume

/-- What the operation gives on a list of characters at a place. -/
def answer (v : View) : Operation → Answer
  | peek offset => .character v.remaining[offset]?
  | next => .character v.remaining.head?
  | sees expected => .verdict (v.remaining.head? == some expected)
  | spells word => .verdict (word.isPrefixOf v.remaining)
  | atEnd => .verdict v.remaining.isEmpty
  | takeWhile test => .text (v.remaining.takeWhile test)
  | takeUntil test => .text (v.remaining.takeWhile (!test ·))
  | takeRest => .text v.remaining
  | origin => .place v.origin
  | consumed => .count v.consumed
  | canStart recognizer => .verdict (recognizer.starts v.remaining)
  | consume recognizer => .recognition (recognizer.reading v.origin v.remaining).answer

/-- How many characters the operation removes from a list of characters at a place. -/
def removed (v : View) : Operation → Nat
  | next => 1
  | takeWhile test => (v.remaining.takeWhile test).length
  | takeUntil test => (v.remaining.takeWhile (!test ·)).length
  | takeRest => v.remaining.length
  | consume recognizer => (recognizer.reading v.origin v.remaining).length
  | _ => 0

/-- Whether the operation only looks. -/
def isLook : Operation → Bool
  | peek _ | sees _ | spells _ | atEnd | origin | consumed | canStart _ => true
  | _ => false

/-- One operation gives on a cursor what it gives on the list that the cursor shows. -/
theorem onView_scan (operation : Operation) (v : View)
    : operation.scan.onView v = (operation.answer v, v.skip (operation.removed v)) := by
  cases operation <;> simp [scan, answer, removed, Recognizer.onView_consume]

theorem removed_of_isLook {operation : Operation} (h : operation.isLook) (v : View)
    : operation.removed v = 0 := by
  cases operation <;> simp_all [isLook, removed]

-----------------------------------------------------------------------------------------
-- Histories
-----------------------------------------------------------------------------------------

/-- The operations one after the other on a cursor. -/
def scanAll : List Operation → Scan (List Answer)
  | [] => pure []
  | operation :: others => do
    let answer ← operation.scan
    let answers ← scanAll others
    return answer :: answers

/-- The list that operations leave, with its place and count. -/
def viewAfter (v : View) : List Operation → View
  | [] => v
  | operation :: others => viewAfter (v.skip (operation.removed v)) others

/-- What operations give one after the other on a list of characters at a place. -/
def answers (v : View) : List Operation → List Answer
  | [] => []
  | operation :: others =>
      operation.answer v :: answers (v.skip (operation.removed v)) others

/-- A history gives on a cursor what it gives on the list that the cursor shows, by induction
over the operations.
-/
theorem onView_scanAll (operations : List Operation) (v : View)
    : (scanAll operations).onView v = (answers v operations, viewAfter v operations) := by
  induction operations generalizing v with
  | nil => simp [scanAll, answers, viewAfter]
  | cons operation others ih => simp [scanAll, answers, viewAfter, onView_scan, ih]

theorem viewAfter_append (v : View) (first second : List Operation)
    : viewAfter v (first ++ second) = viewAfter (viewAfter v first) second := by
  induction first generalizing v with
  | nil => rfl
  | cons operation others ih => exact ih _

theorem answers_append (v : View) (first second : List Operation)
    : answers v (first ++ second) = answers v first ++ answers (viewAfter v first) second := by
  induction first generalizing v with
  | nil => rfl
  | cons operation others ih => simp only [List.cons_append, answers, viewAfter, ih]

/-- Looks leave the list as it is, by induction over them. -/
theorem viewAfter_looks {looks : List Operation} (h : ∀ look ∈ looks, look.isLook) (v : View)
    : viewAfter v looks = v := by
  induction looks with
  | nil => rfl
  | cons look others ih =>
      rw [viewAfter, removed_of_isLook (h look (by simp)), View.skip_zero]
      exact ih (fun other member => h other (by simp [member]))

/-- At the end there is nothing left to remove, so that the view stays for good. -/
theorem viewAfter_of_nil {v : View} (h : v.remaining = []) (operations : List Operation)
    : viewAfter v operations = v := by
  induction operations with
  | nil => rfl
  | cons operation others ih => rw [viewAfter, View.skip_of_nil h, ih]

theorem fst_run_scanAll (operations : List Operation) (c : Cursor)
    : ((scanAll operations).run c).1 = answers c.view operations := by
  rw [Scan.fst_run, onView_scanAll]

theorem view_run_scanAll (operations : List Operation) (c : Cursor)
    : ((scanAll operations).run c).2.view = viewAfter c.view operations := by
  rw [Scan.view_run, onView_scanAll]

-----------------------------------------------------------------------------------------
-- The end of the input, and looks
-----------------------------------------------------------------------------------------

/-- At the end no attempt ever gives a character or moves the cursor, since whatever was tried
before leaves the same empty view.
-/
theorem next_peek_at_end {c : Cursor} (h : c.remaining = []) (attempts : List Operation)
    (offset : Nat)
    : let last := ((scanAll attempts).run c).2
      last.next.1 = none
      ∧ last.next.2.view = c.view
      ∧ (last.peek offset).1 = none
      ∧ (last.peek offset).2.view = c.view := by
  intro last
  have hview : last.view = c.view := by
    rw [view_run_scanAll, viewAfter_of_nil h]
  have hremaining : last.remaining = [] := by
    rw [← Cursor.remaining_view, hview, Cursor.remaining_view, h]
  have hnext := Scan.next.onView_view last
  have hpeek := (Scan.peek offset).onView_view last
  rw [Scan.onView_next, hview, View.skip_of_nil h] at hnext
  rw [Scan.onView_peek, hview] at hpeek
  exact ⟨by rw [Cursor.next_fst, hremaining, List.head?_nil], (Prod.mk.inj hnext).2.symm,
    by rw [Cursor.peek_fst, hremaining, List.getElem?_nil], (Prod.mk.inj hpeek).2.symm⟩

/-- Looks put in front of operations only put their own answers in front. -/
theorem run_looks_append {looks : List Operation} (h : ∀ look ∈ looks, look.isLook)
    (more : List Operation) (c : Cursor)
    : ((scanAll (looks ++ more)).run c).1
        = answers c.view looks ++ ((scanAll more).run c).1
      ∧ ((scanAll (looks ++ more)).run c).2.view = ((scanAll more).run c).2.view := by
  constructor
  · rw [fst_run_scanAll, fst_run_scanAll, answers_append, viewAfter_looks h]
  · rw [view_run_scanAll, view_run_scanAll, viewAfter_append, viewAfter_looks h]

theorem length_answers (v : View) (operations : List Operation)
    : (answers v operations).length = operations.length := by
  induction operations generalizing v with
  | nil => rfl
  | cons operation others ih => simp [answers, ih]

/-- Any history of a cursor over any source gives the answers of a plain list, and the list is
what the source gives less what was consumed. At the end nothing more comes and the place stays,
whatever is tried; and looks before further operations change neither their answers nor where
they lead.
-/
theorem history_refines_list (name : String) (source : Source) (history : List Operation)
    : let start := View.start name source.remaining
      let (given, reached) := (scanAll history).run (Cursor.ofSource name source)
      given = answers start history
      ∧ reached.view = viewAfter start history
      ∧ (∃ taken,
          source.remaining = taken ++ reached.remaining
          ∧ reached.origin = (Position.start name).advanceOver taken
          ∧ reached.consumed = taken.length)
      ∧ (reached.remaining = []
          → ∀ attempts offset,
              let last := ((scanAll attempts).run reached).2
              last.next.1 = none
              ∧ last.next.2.view = reached.view
              ∧ (last.peek offset).1 = none
              ∧ (last.peek offset).2.view = reached.view)
      ∧ ∀ looks more,
          (∀ look ∈ looks, look.isLook)
          → ∃ seen,
              seen.length = looks.length
              ∧ ((scanAll (looks ++ more)).run reached).1
                = seen ++ ((scanAll more).run reached).1
              ∧ ((scanAll (looks ++ more)).run reached).2.view
                = ((scanAll more).run reached).2.view := by
  intro start
  have hstart : (Cursor.ofSource name source).view = start := rfl
  have hrun := (scanAll history).onView_view (Cursor.ofSource name source)
  rw [hstart, onView_scanAll] at hrun
  obtain ⟨hgiven, hreached⟩ := Prod.mk.inj hrun
  refine ⟨hgiven.symm, hreached.symm, ?_, ?_, ?_⟩
  · obtain ⟨taken, h⟩ := (scanAll history).reaches (Cursor.ofSource name source)
    exact ⟨taken, h.remaining, h.origin, h.consumed.trans (Nat.zero_add _)⟩
  · intro hend attempts offset
    exact next_peek_at_end hend attempts offset
  · intro looks more hlooks
    exact ⟨_, length_answers _ looks, run_looks_append hlooks more _⟩

end Operation

end Lexical
