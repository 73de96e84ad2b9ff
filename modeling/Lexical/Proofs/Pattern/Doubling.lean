import Lexical.Pattern.Compile
import Lexical.Proofs.Recognizer.Lexeme
import Mathlib.Algebra.Group.Nat.Defs

/-! The window that a match is sought in. It is doubled only as often as it has to be, and what is
measured is the match in the first window that needs no doubling. A pattern that takes the longest
run of some characters takes that run whatever the window is.
-/

namespace Lexical.Pattern

-----------------------------------------------------------------------------------------
-- The least number of doublings
-----------------------------------------------------------------------------------------

/-- No wider window is sought: there is no match in this one, or the match ends before its edge, or
it holds the whole text.
-/
inductive StopsAt (pattern : Pattern) (text : List Char) (window : Nat) : Prop
  | nothing (missing : pattern.lexeme? (text.take window) = none)
  | inside {length} (found : pattern.lexeme? (text.take window) = some length)
    (before : length < window)
  | whole (holds : text.length ≤ window)

/-- What is measured is the match in the first of the doubled windows that needs no doubling, by
induction over the windows.
-/
theorem exists_least_doubling (pattern : Pattern) (window : Nat) (text : List Char)
    : ∃ doublings,
        pattern.StopsAt text (window * 2 ^ doublings)
        ∧ (∀ fewer < doublings, ¬pattern.StopsAt text (window * 2 ^ fewer))
        ∧ pattern.lengthWithin window text
          = pattern.lexeme? (text.take (window * 2 ^ doublings)) := by
  fun_induction Pattern.lengthWithin pattern window text with
  | case1 window hseen =>
      refine ⟨0, ?_, ?_, ?_⟩
      · simpa using StopsAt.nothing hseen
      · simp
      · simpa using hseen.symm
  | case2 window length hseen hstops =>
      refine ⟨0, ?_, ?_, ?_⟩
      · rcases hstops with inside | whole
        · simpa using StopsAt.inside hseen inside
        · simpa using StopsAt.whole whole
      · simp
      · simpa using hseen.symm
  | case3 window length hseen hgoes ih =>
      obtain ⟨doublings, stops, least, measured⟩ := ih
      have hwidth (count : Nat) : window * 2 ^ (count + 1) = 2 * window * 2 ^ count := by
        rw [Nat.pow_succ, Nat.mul_comm (2 ^ count), ← Nat.mul_assoc, Nat.mul_comm window]
      refine ⟨doublings + 1, ?_, ?_, ?_⟩
      · rwa [hwidth]
      · intro fewer hfewer stops'
        cases fewer with
        | zero =>
            rw [Nat.pow_zero, Nat.mul_one] at stops'
            cases stops' with
            | nothing missing => simp [missing] at hseen
            | inside found before =>
                obtain rfl := Option.some.inj (found.symm.trans hseen)
                exact hgoes (.inl before)
            | whole holds => exact hgoes (.inr holds)
        | succ fewer =>
            rw [hwidth] at stops'
            exact least fewer (Nat.lt_of_succ_lt_succ hfewer) stops'
      · rw [measured, hwidth]

-----------------------------------------------------------------------------------------
-- Patterns that take runs
-----------------------------------------------------------------------------------------

/-- The pattern matches the longest run of characters that satisfy the test, if there is one. -/
def TakesRuns (pattern : Pattern) (test : Char → Bool) : Prop :=
  ∀ text,
    pattern.lexeme? text
    = if text.takeWhile test = [] then none else some (text.takeWhile test).length

/-- Through whatever window, such a pattern takes the run that the text begins with. The run in a
window is the part of it that the window holds, so that a window is doubled until it holds all.
-/
theorem TakesRuns.lengthWithin {pattern : Pattern} {test : Char → Bool}
    (takes : pattern.TakesRuns test) {window : Nat} (wide : 0 < window) (text : List Char)
    : pattern.lengthWithin window text
      = if text.takeWhile test = [] then none else some (text.takeWhile test).length := by
  obtain ⟨doublings, stops, -, measured⟩ := pattern.exists_least_doubling window text
  have hwide : 0 < window * 2 ^ doublings := Nat.mul_pos wide (Nat.two_pow_pos _)
  have hseen : (text.take (window * 2 ^ doublings)).takeWhile test = text.takeWhile test := by
    rw [← List.take_takeWhile]
    apply List.take_of_length_le
    cases stops with
    | nothing missing =>
        rw [takes, ← List.take_takeWhile] at missing
        have hnone : text.takeWhile test = [] := by
          simpa [Nat.ne_of_gt hwide] using missing
        simp [hnone]
    | inside found before =>
        rw [takes, ← List.take_takeWhile] at found
        split at found
        · cases found
        · obtain rfl := Option.some.inj found
          simp only [List.length_take] at before
          omega
    | whole holds => exact (List.takeWhile_sublist test).length_le.trans holds
  rw [measured, takes, hseen]

-----------------------------------------------------------------------------------------
-- The program of a run
-----------------------------------------------------------------------------------------

/-- At the start of a text, characters of the set, at least one and as many as there are. -/
def Meaning.runOf (set : CharSet) : Meaning :=
  .seq (.look .startText) (.seq (.repetition 1 none true (.chars set)) .empty)

variable {set : CharSet}

/-- The program of a run: a character, and behind it another one or else the end. -/
theorem program_runOf (set : CharSet)
    : (Meaning.runOf set).program
      = #[.look .startText, .chars set, .split 1 3, .accept] :=
  rfl

theorem accepts_runOf (step : Nat)
    : accepts (Meaning.runOf set).program step = (step == 3) := by
  rw [program_runOf]
  match step with
  | 0 | 1 | 2 | 3 => rfl
  | step + 4 => simp [accepts]

/-- A character of the set leaves the choice between another one and the end. -/
theorem advance_runOf (c : Char) (after : Option Char)
    : advance (Meaning.runOf set).program c after [1]
      = if set.contains c then [1, 3] else [] := by
  have hchars : (Meaning.runOf set).program[1]? = some (.chars set) := rfl
  have hspread : (spread (Meaning.runOf set).program (some c) after {} 2).waiting = [3, 1] := by
    cbv
  cases hcontains : set.contains c <;>
    simp [advance, hchars, hcontains, hspread]

/-- A search without threads has found what it has found. -/
theorem search_nil (code : Array Instruction) (offset : Nat) (best : Option Nat)
    (text : List Char)
    : search code offset [] best text = best := by
  cases text <;> simp [search]

/-- Behind a character of a run the search finds the rest of the run, by induction over the text. -/
theorem search_runOf (offset : Nat) (best : Option Nat) (text : List Char)
    : search (Meaning.runOf set).program offset [1, 3] best text
      = some (offset + (text.takeWhile set.contains).length) := by
  induction text generalizing offset best with
  | nil => simp [search, accepts_runOf]
  | cons c rest ih =>
      cases hcontains : set.contains c with
      | false => simp [search, accepts_runOf, advance_runOf, search_nil, hcontains]
      | true =>
          simp [search, accepts_runOf, advance_runOf, ih, hcontains, Nat.add_assoc, Nat.add_comm 1]

/-- The program of a run matches the longest run of characters of the set. -/
theorem takesRuns_of_program {pattern : Pattern}
    (runs : pattern.extent? = extent (Meaning.runOf set).program)
    : pattern.TakesRuns set.contains := by
  intro text
  have hextent : extent (Meaning.runOf set).program text
      = search (Meaning.runOf set).program 0 [1] none text := by
    rfl
  rw [lexeme?, runs, hextent]
  cases text with
  | nil => simp [search, accepts_runOf]
  | cons c rest =>
      cases hcontains : set.contains c with
      | false => simp [search, accepts_runOf, advance_runOf, search_nil, hcontains]
      | true =>
          simp [search, accepts_runOf, advance_runOf, search_runOf, hcontains, Nat.add_comm 1]

-----------------------------------------------------------------------------------------
-- Patterns that compile
-----------------------------------------------------------------------------------------

/-- A pattern compiles where its text can be read, has a meaning, and takes no more room than there
is; it matches as the program for its meaning does.
-/
theorem anchoredOfText_eq_ok_iff {regex : String} {pattern : Pattern}
    : anchoredOfText regex = .ok pattern
      ↔ ∃ expression meaning mode,
          Expr.ofText (anchored regex) = .ok expression
          ∧ expression.meaning {} = .ok (meaning, mode)
          ∧ meaning.weight ≤ maxWeight
          ∧ pattern
            = ⟨anchored regex, extent meaning.program, extent_le_length meaning.program⟩ := by
  unfold anchoredOfText compile ofText
  cases hexpression : Expr.ofText (anchored regex) with
  | error fault => simp [bind, Except.bind, Except.mapError]
  | ok expression =>
      cases hmeaning : expression.meaning {} with
      | error fault => simp [bind, Except.bind, Except.mapError, hmeaning]
      | ok result =>
          obtain ⟨meaning, mode⟩ := result
          by_cases heavy : maxWeight < meaning.weight
          · simp [bind, Except.bind, Except.mapError, hmeaning, heavy, Nat.not_le.2 heavy]
          · simp [bind, Except.bind, Except.mapError, pure, Except.pure, hmeaning, heavy,
              Nat.not_lt.1 heavy, eq_comm]

/-- A pattern compiles where its text has a known meaning that is not too large. -/
theorem exists_of_meaning {regex : String} {meaning : Meaning}
    (means
      : (Expr.ofText (anchored regex) >>= (·.meaning {})).toOption.map (·.1) = some meaning)
    (light : meaning.weight ≤ maxWeight)
    : ∃ pattern,
        anchoredOfText regex = .ok pattern ∧ pattern.extent? = extent meaning.program := by
  cases hexpression : Expr.ofText (anchored regex) with
  | error fault => simp [hexpression, bind, Except.bind, Except.toOption] at means
  | ok expression =>
      cases hmeaning : expression.meaning {} with
      | error fault => simp [hexpression, hmeaning, bind, Except.bind, Except.toOption] at means
      | ok result =>
          simp only [hexpression, hmeaning, bind, Except.bind, Except.toOption, Option.map_some,
            Option.some.injEq] at means
          subst means
          exact ⟨_, anchoredOfText_eq_ok_iff.2 ⟨_, _, _, hexpression, hmeaning, light, rfl⟩, rfl⟩

-----------------------------------------------------------------------------------------
-- What is taken
-----------------------------------------------------------------------------------------

/-- Where a length was measured, as many characters are taken, and they are the lexeme. -/
theorem consume_of_lengthWithin {pattern : Pattern} {window length : Nat} {c : Cursor}
    (measured : pattern.lengthWithin (max window 1) c.remaining = some length)
    (kind? : Option Kind)
    : let recognizer := Recognizer.pattern kind? pattern window
      (recognizer.consume.run c).1
        = .ok (kind?.map fun kind =>
            { kind, value := .text (String.ofList (c.remaining.take length)) })
      ∧ c.StepsOver (c.remaining.take length) (recognizer.consume.run c).2 := by
  have hreading : (Recognizer.pattern kind? pattern window).reading c.origin c.remaining
      = ⟨.ok (kind?.map fun kind =>
            { kind, value := .text (String.ofList (c.remaining.take length)) }),
          (c.remaining.take length).length⟩ := by
    have hlength : (c.remaining.take length).length = length :=
      List.length_take_of_le (lengthWithin_bounds measured).2
    cases kind? <;>
      simp only [Recognizer.reading, Recognizer.patternReading, measured, Option.getD_some,
        hlength] <;> rfl
  constructor
  · rw [Recognizer.fst_run_consume, hreading]
  · apply Recognizer.stepsOver_consume
    · exact List.take_prefix length c.remaining
    · rw [hreading]

/-- A pattern can start where a length is measured. -/
theorem canStart_iff (pattern : Pattern) (kind? : Option Kind) (window : Nat) (c : Cursor)
    : ((Recognizer.pattern kind? pattern window).canStart.run c).1
      ↔ ∃ length, pattern.lengthWithin (max window 1) c.remaining = some length := by
  rw [Scan.fst_run, Recognizer.onView_canStart, Cursor.remaining_view]
  exact Option.isSome_iff_exists

/-- A pattern that takes runs can start where there is a run, and takes what a scan for it takes, on
any cursor that shows the same.
-/
theorem TakesRuns.consume {pattern : Pattern} {test : Char → Bool}
    (takes : pattern.TakesRuns test) (kind? : Option Kind) (window : Nat) {c d : Cursor}
    (looked : c.Resembles d)
    : let recognizer := Recognizer.pattern kind? pattern window
      let run := ((Scan.takeWhile test).run c).1
      ((recognizer.canStart.run c).1 ↔ run ≠ [])
      ∧ (run ≠ []
        → (recognizer.consume.run d).1
            = .ok (kind?.map fun kind => { kind, value := .text (String.ofList run) })
          ∧ ((Scan.takeWhile test).run c).2.Resembles (recognizer.consume.run d).2) := by
  intro recognizer run
  have hrun : run = c.remaining.takeWhile test := by
    simp only [run, Scan.fst_run, Scan.onView_takeWhile, Cursor.remaining_view]
  have hbehind : ((Scan.takeWhile test).run c).2.view = c.view.skip run.length := by
    simp only [hrun, Scan.view_run, Scan.onView_takeWhile, Cursor.remaining_view]
  have measured := takes.lengthWithin (Nat.le_max_right window 1) c.remaining
  rw [← hrun] at measured
  constructor
  · rw [canStart_iff, measured]
    split
    · next missing => exact ⟨nofun, fun nonempty => absurd missing nonempty⟩
    · next nonempty => exact ⟨fun _ => nonempty, fun _ => ⟨_, rfl⟩⟩
  · intro nonempty
    rw [if_neg nonempty, ← looked.remaining] at measured
    have htaken : d.remaining.take run.length = run := by
      rw [looked.remaining, hrun]
      exact (List.prefix_iff_eq_take.1 (List.takeWhile_prefix test)).symm
    obtain ⟨answer, steps⟩ := consume_of_lengthWithin measured kind?
    rw [htaken] at answer steps
    refine ⟨answer, ?_⟩
    rw [Cursor.resembles_iff_view_eq, steps.view, looked.view, hbehind]

/-- Measuring looks for a match in windows that are doubled, and gives the match in the first window
that needs no doubling, without consuming anything. The pattern can start where there is a match,
and takes it, though it is measured again on what was read ahead. Whatever the window is, a pattern
that takes runs takes just what a scan does that goes on while the test holds.
-/
theorem first_settled_window_measured (pattern : Pattern) (kind? : Option Kind) (window : Nat)
    (c : Cursor)
    : let recognizer := Recognizer.pattern kind? pattern window
      let started := (recognizer.canStart.run c).2
      (∃ doublings,
        let seen := c.remaining.take (max window 1 * 2 ^ doublings)
        pattern.StopsAt c.remaining (max window 1 * 2 ^ doublings)
        ∧ (∀ fewer < doublings, ¬pattern.StopsAt c.remaining (max window 1 * 2 ^ fewer))
        ∧ (pattern.matchLength (max window 1) c).1 = pattern.lexeme? seen
        ∧ c.Resembles (pattern.matchLength (max window 1) c).2
        ∧ ((recognizer.canStart.run c).1 ↔ ∃ length, pattern.lexeme? seen = some length)
        ∧ c.Resembles started
        ∧ ∀ length,
            pattern.lexeme? seen = some length
            → ∃ taken,
                taken.length = length
                ∧ (recognizer.consume.run started).1
                  = .ok (kind?.map fun kind => { kind, value := .text (String.ofList taken) })
                ∧ started.StepsOver taken (recognizer.consume.run started).2)
      ∧ ∀ test,
          pattern.TakesRuns test
          → let run := ((Scan.takeWhile test).run c).1
            let behind := ((Scan.takeWhile test).run c).2
            ((recognizer.canStart.run c).1 ↔ run ≠ [])
            ∧ (run ≠ []
              → (recognizer.consume.run started).1
                  = .ok (kind?.map fun kind => { kind, value := .text (String.ofList run) })
                ∧ behind.Resembles (recognizer.consume.run started).2) := by
  intro recognizer started
  have looked : c.Resembles started := recognizer.toRule_onlyLooks c
  constructor
  · obtain ⟨doublings, stops, least, measured⟩ :=
      pattern.exists_least_doubling (max window 1) c.remaining
    refine ⟨doublings, stops, least, ?_, pattern.resembles_matchLength _ c, ?_, looked, ?_⟩
    · rw [matchLength_fst, measured]
    · rw [← measured]
      exact canStart_iff pattern kind? window c
    · intro length found
      rw [← measured, ← looked.remaining] at found
      refine ⟨started.remaining.take length, ?_, consume_of_lengthWithin found kind?⟩
      exact List.length_take_of_le (lengthWithin_bounds found).2
  · intro test takes
    exact takes.consume kind? window looked

/-- Lower-case letters are taken whole through a window of two characters, by the pattern that
compiles from their class as by a scan.
-/
theorem letters_whole_through_narrow_window
    : let lower : CharSet := ⟨[(97, 122)]⟩
      let c := Cursor.ofText "notes" "lexer 12"
      ∃ pattern,
        anchoredOfText "[a-z]+" = .ok pattern
        ∧ pattern.TakesRuns lower.contains
        ∧ let letters := Recognizer.pattern (some ⟨"letters"⟩) pattern 2
          ((Scan.takeWhile lower.contains).run c).1 ≠ []
          ∧ (letters.canStart.run c).1
          ∧ (letters.consume.run (letters.canStart.run c).2).1
            = Rule.accept ⟨"letters"⟩ (.text "lexer")
          ∧ ∃ doublings, pattern.lexeme? (c.remaining.take (2 * 2 ^ doublings)) = some 5 := by
  intro lower c
  obtain ⟨pattern, compiles, matchesRuns⟩ : ∃ pattern,
      anchoredOfText "[a-z]+" = .ok pattern
      ∧ pattern.extent? = extent (Meaning.runOf lower).program :=
    exists_of_meaning (by decide +kernel) (by decide)
  have takes := takesRuns_of_program matchesRuns
  have hrun : ((Scan.takeWhile lower.contains).run c).1 = "lexer".toList := by
    rw [Scan.fst_run, Scan.onView_takeWhile, Cursor.remaining_view, Cursor.remaining_ofText]
    decide
  have nonempty : ((Scan.takeWhile lower.contains).run c).1 ≠ [] := by
    rw [hrun]
    decide
  obtain ⟨⟨doublings, -, -, -, -, startsIff, -, consumes⟩, runs⟩ :=
    first_settled_window_measured pattern (some ⟨"letters"⟩) 2 c
  obtain ⟨startsWhere, taken⟩ := runs _ takes
  obtain ⟨answer, -⟩ := taken nonempty
  have starts := startsWhere.2 nonempty
  rw [hrun] at answer
  obtain ⟨length, found⟩ := startsIff.1 starts
  obtain ⟨text, rfl, sameAnswer, -⟩ := consumes length found
  obtain rfl : text = "lexer".toList := by
    have same : String.ofList text = "lexer" := by
      simpa using sameAnswer.symm.trans answer
    rw [← same, String.toList_ofList]
  exact ⟨pattern, compiles, takes, nonempty, starts, answer, doublings, found⟩

end Lexical.Pattern
