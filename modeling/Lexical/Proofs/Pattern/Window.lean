import Lexical.Proofs.Pattern.Doubling

/-! Matches of patterns that are seen through a window. What a pattern takes is its match over the
window in which it was found. That is its match over all that remains if the window holds all of it,
or if the search for the match was over before the edge of the window; a search that comes to the
edge may have stopped short of a longer match, also where the match that it found ends before the
edge.
-/

namespace Lexical.Pattern

-----------------------------------------------------------------------------------------
-- Searches that are over
-----------------------------------------------------------------------------------------

/-- Whether a search is over at some character of the text, since no thread waits for it. -/
def isOverWithin (code : Array Instruction) (waiting : List Nat) : List Char → Bool
  | [] => false
  | c :: rest =>
    let waiting := waiting.takeWhile fun step => !accepts code step
    waiting.isEmpty || isOverWithin code (advance code c rest.head? waiting) rest

/-- Whether the search for a match at the start of the text is over before the text is. -/
def settles (code : Array Instruction) (text : List Char) : Bool :=
  isOverWithin code (spread code none text.head? {} 0).waiting.reverse text

variable {code : Array Instruction} {text : List Char}

/-- A search can only be over at a character, so that text put behind comes after it. -/
theorem head?_append_of_isOverWithin {waiting : List Nat}
    (ended : isOverWithin code waiting text) (more : List Char)
    : (text ++ more).head? = text.head? := by
  cases text with
  | nil => cases ended
  | cons c rest => rfl

/-- A search that is over within a text finds the same with more text behind, by induction over the
text. The condition on the character behind never looks past the text, as the search is over before.
-/
theorem search_append {waiting : List Nat} (ended : isOverWithin code waiting text)
    (offset : Nat) (best : Option Nat) (more : List Char)
    : search code offset waiting best (text ++ more) = search code offset waiting best text := by
  induction text generalizing waiting offset best with
  | nil => cases ended
  | cons c rest ih =>
      simp only [isOverWithin, Bool.or_eq_true] at ended
      simp only [List.cons_append, search]
      split
      · rfl
      · next going =>
          have ended := ended.resolve_left going
          rw [head?_append_of_isOverWithin ended]
          exact ih ended _ _

/-- A match that is settled within a text is the match of every longer text. -/
theorem extent_append (settled : settles code text) (more : List Char)
    : extent code (text ++ more) = extent code text := by
  rw [extent, head?_append_of_isOverWithin settled, search_append settled, extent]

/-- Every pattern that compiles matches as the program for its meaning does. -/
theorem exists_program {regex : String} {pattern : Pattern}
    (compiles : anchoredOfText regex = .ok pattern)
    : ∃ meaning : Meaning, pattern.extent? = extent meaning.program := by
  obtain ⟨expression, meaning, mode, -, -, -, rfl⟩ := anchoredOfText_eq_ok_iff.1 compiles
  exact ⟨meaning, rfl⟩

-----------------------------------------------------------------------------------------
-- Windows
-----------------------------------------------------------------------------------------

/-- What is measured is the match over one of the windows, each twice as wide as the one before it:
one that the match does not fill, or that holds the whole text.
-/
theorem exists_window_of_lengthWithin {pattern : Pattern} {window length : Nat}
    (h : pattern.lengthWithin window text = some length)
    : ∃ doublings,
        pattern.lexeme? (text.take (window * 2 ^ doublings)) = some length
        ∧ (length < window * 2 ^ doublings ∨ text.length ≤ window * 2 ^ doublings) := by
  obtain ⟨doublings, stops, -, measured⟩ := pattern.exists_least_doubling window text
  rw [h] at measured
  refine ⟨doublings, measured.symm, ?_⟩
  cases stops with
  | nothing missing => simp [missing] at measured
  | inside found before =>
      obtain rfl := Option.some.inj (measured.trans found)
      exact .inl before
  | whole holds => exact .inr holds

/-- Where a length was measured the pattern can start, and it takes as many characters. -/
theorem run_of_lengthWithin {pattern : Pattern} {length : Nat} {c : Cursor} (window : Nat)
    (measured : pattern.lengthWithin (max window 1) c.remaining = some length)
    (kind? : Option Kind)
    : let recognizer := Recognizer.pattern kind? pattern window
      (recognizer.canStart.run c).1
      ∧ (recognizer.consume.run c).1
        = .ok (kind?.map fun kind =>
            { kind, value := .text (String.ofList (c.remaining.take length)) })
      ∧ (recognizer.consume.run c).2.view = c.view.skip length := by
  obtain ⟨answer, steps⟩ := consume_of_lengthWithin measured kind?
  exact ⟨(canStart_iff pattern kind? window c).2 ⟨length, measured⟩, answer, steps.view_take⟩

/-- Stepping over characters to the view behind so many steps over as many. -/
theorem length_of_view_eq_skip {c d : Cursor} {taken : List Char} {length : Nat}
    (steps : c.StepsOver taken d) (shows : d.view = c.view.skip length)
    (inside : length ≤ c.remaining.length)
    : taken.length = length := by
  have hconsumed := congrArg View.consumed shows
  rw [Cursor.consumed_view, steps.consumed] at hconsumed
  simp only [View.skip, Cursor.consumed_view, Cursor.remaining_view, List.length_take] at hconsumed
  omega

/-- Where a pattern can start that matches as the program for a meaning does, leftmost and by
preference, it takes its match over one of the windows, which the match does not fill unless the
window holds all that remains. The lexeme is whole, the match over all that remains, if the window
holds all of it or the search is over before its edge.
-/
theorem lexeme_whole_if_settled {pattern : Pattern} {meaning : Meaning}
    (searches : pattern.extent? = extent meaning.program) (kind? : Option Kind) (window : Nat)
    {c : Cursor} (starts : ((Recognizer.pattern kind? pattern window).canStart.run c).1)
    : ∃ taken doublings,
        c.StepsOver taken ((Recognizer.pattern kind? pattern window).consume.run c).2
        ∧ let seen := c.remaining.take (max window 1 * 2 ^ doublings)
          pattern.lexeme? seen = some taken.length
          ∧ (taken.length < seen.length ∨ seen = c.remaining)
          ∧ (seen = c.remaining ∨ settles meaning.program seen
            → pattern.lexeme? c.remaining = some taken.length) := by
  rw [Scan.fst_run, Recognizer.onView_canStart, Cursor.remaining_view] at starts
  obtain ⟨length, hlength⟩ := Option.isSome_iff_exists.1 starts
  obtain ⟨doublings, hseen, hinside⟩ := exists_window_of_lengthWithin hlength
  obtain ⟨taken, steps⟩ := (Recognizer.pattern kind? pattern window).consume.reaches c
  have htaken : taken.length = length :=
    length_of_view_eq_skip steps (run_of_lengthWithin window hlength kind?).2.2
      (lengthWithin_bounds hlength).2
  refine ⟨taken, doublings, steps, by rw [htaken, hseen], ?_, ?_⟩
  · by_cases whole : c.remaining.length ≤ max window 1 * 2 ^ doublings
    · exact .inr (List.take_of_length_le whole)
    · rw [htaken, List.length_take]
      exact .inl (by omega)
  · rintro (whole | settled)
    · rw [whole] at hseen
      rw [htaken, hseen]
    · have hextent := extent_append settled (c.remaining.drop (max window 1 * 2 ^ doublings))
      rw [List.take_append_drop, ← searches] at hextent
      rw [htaken, ← hseen, lexeme?, hextent, lexeme?]

/-- What holds of the result of compiling a pattern holds of a pattern that compiles. -/
theorem exists_of_toOption_map {regex : String} {α : Type} {f : Pattern → α} {result : α}
    (h : (anchoredOfText regex).toOption.map f = some result)
    : ∃ pattern, anchoredOfText regex = .ok pattern ∧ f pattern = result := by
  cases compiles : anchoredOfText regex with
  | error reason =>
      rw [compiles] at h
      cases h
  | ok pattern =>
      rw [compiles] at h
      exact ⟨pattern, rfl, Option.some.inj h⟩

/-- A number with a fraction is whole through a window that holds it. -/
theorem fraction_whole_in_window
    : ∃ pattern,
        anchoredOfText "[0-9]+(\\.[0-9]+)?" = .ok pattern
        ∧ let c := Cursor.ofText "notes" "123.5"
          let fractions := Recognizer.pattern (some ⟨"number"⟩) pattern 5
          (fractions.canStart.run c).1
          ∧ ∃ taken,
              c.StepsOver taken (fractions.consume.run c).2
              ∧ pattern.lexeme? "123.5".toList = some taken.length := by
  obtain ⟨pattern, compiles, hmeasured⟩ : ∃ pattern,
      anchoredOfText "[0-9]+(\\.[0-9]+)?" = .ok pattern
      ∧ pattern.lengthWithin 5 "123.5".toList = some 5 :=
    exists_of_toOption_map (by decide +kernel)
  rw [← Cursor.remaining_ofText "notes"] at hmeasured
  have starts := (run_of_lengthWithin 5 hmeasured (some ⟨"number"⟩)).1
  obtain ⟨meaning, searches⟩ := exists_program compiles
  obtain ⟨taken, doublings, steps, -, -, whole⟩ :=
    lexeme_whole_if_settled searches (some ⟨"number"⟩) 5 starts
  rw [Cursor.remaining_ofText] at whole
  refine ⟨pattern, compiles, starts, taken, steps, whole (.inl ?_)⟩
  exact List.take_of_length_le (Nat.le_mul_of_pos_right 5 (Nat.two_pow_pos doublings))

/-- The same number is cut before its point through a window that ends behind the point: the match
stops short of the edge, so that no wider window is tried. Which lexeme there is hangs on the
window.
-/
theorem fraction_cut_at_window
    : ∃ pattern,
        anchoredOfText "[0-9]+(\\.[0-9]+)?" = .ok pattern
        ∧ let c := Cursor.ofText "notes" "123.5"
          let narrow := Recognizer.pattern (some ⟨"number"⟩) pattern 4
          let wide := Recognizer.pattern (some ⟨"number"⟩) pattern 5
          pattern.lexeme? c.remaining = some 5
          ∧ (narrow.canStart.run c).1
          ∧ (narrow.consume.run c).1 = Rule.accept ⟨"number"⟩ (.text "123")
          ∧ (narrow.consume.run c).2.remaining = ".5".toList
          ∧ (wide.canStart.run c).1
          ∧ (wide.consume.run c).1 = Rule.accept ⟨"number"⟩ (.text "123.5") := by
  obtain ⟨pattern, compiles, hmeasured⟩ : ∃ pattern,
      anchoredOfText "[0-9]+(\\.[0-9]+)?" = .ok pattern
      ∧ (pattern.lexeme? "123.5".toList, pattern.lengthWithin 4 "123.5".toList,
          pattern.lengthWithin 5 "123.5".toList)
        = (some 5, some 3, some 5) :=
    exists_of_toOption_map (by decide +kernel)
  rw [← Cursor.remaining_ofText "notes"] at hmeasured
  simp only [Prod.mk.injEq] at hmeasured
  obtain ⟨hwhole, hnarrow, hwide⟩ := hmeasured
  obtain ⟨narrowStarts, narrowAnswer, narrowRest⟩ :=
    run_of_lengthWithin 4 hnarrow (some ⟨"number"⟩)
  obtain ⟨wideStarts, wideAnswer, -⟩ :=
    run_of_lengthWithin 5 hwide (some ⟨"number"⟩)
  rw [Cursor.remaining_ofText] at narrowAnswer wideAnswer
  have hrest := congrArg View.remaining narrowRest
  rw [View.remaining_skip, Cursor.remaining_view, Cursor.remaining_view,
    Cursor.remaining_ofText] at hrest
  exact ⟨pattern, compiles, hwhole, narrowStarts, narrowAnswer, hrest, wideStarts, wideAnswer⟩

end Lexical.Pattern
