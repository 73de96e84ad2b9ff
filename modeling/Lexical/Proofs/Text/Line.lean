import Lexical.Proofs.Position
import Lexical.Text.Line
import Mathlib.Data.List.DropRight
import Mathlib.Data.List.Induction

/-! Places and lines. A text up to some character consists of whole lines and the beginning of the
line that the character is on: the place of the character counts the ones and measures the other,
and the line of that number goes on from that beginning.
-/

namespace Lexical.Text

-----------------------------------------------------------------------------------------
-- Trailing elements
-----------------------------------------------------------------------------------------

/-- What is dropped from the end satisfies the test, and what is left does not end so. -/
theorem dropTrailing_spec {α : Type} (test : α → Bool) (items : List α)
    : ∃ trail,
        items = dropTrailing test items ++ trail
        ∧ (∀ item ∈ trail, test item)
        ∧ ∀ some : dropTrailing test items ≠ [],
            ¬test ((dropTrailing test items).getLast some) := by
  refine ⟨items.rtakeWhile test, ?_, ?_, ?_⟩
  · exact List.rdropWhile_append_rtakeWhile.symm
  · intro item member
    exact List.mem_rtakeWhile_imp member
  · intro some
    exact List.rdropWhile_last_not test items some

/-- An element that fails the test keeps itself and what is before it. -/
theorem dropTrailing_append_cons {α : Type} (test : α → Bool) {item : α}
    (kept : test item = false) (before after : List α)
    : dropTrailing test (before ++ item :: after)
      = before ++ item :: dropTrailing test after := by
  have hreverse : (before ++ item :: after).reverse
      = after.reverse ++ item :: before.reverse := by
    rw [List.reverse_append, List.reverse_cons, List.append_assoc, List.singleton_append]
  rw [dropTrailing, dropTrailing, hreverse, List.dropWhile_append]
  cases hrest : after.reverse.dropWhile test with
  | nil => simp [kept]
  | cons first others => simp

-----------------------------------------------------------------------------------------
-- The line that a text breaks off in
-----------------------------------------------------------------------------------------

/-- A text consists of whole lines, each with its line feed, and the beginning of a line. -/
structure BreaksOff (text whole line : List Char) : Prop where
  split : text = whole ++ line
  unbroken : '\n' ∉ line
  fed : whole = [] ∨ ∃ lines, whole = lines ++ ['\n']

/-- Every text breaks off in some line, by induction from its end. -/
theorem exists_breaksOff (text : List Char) : ∃ whole line, BreaksOff text whole line := by
  induction text using List.reverseRecOn with
  | nil => exact ⟨[], [], rfl, List.not_mem_nil, .inl rfl⟩
  | append_singleton text c ih =>
      by_cases hfeed : c = '\n'
      · subst hfeed
        exact ⟨text ++ ['\n'], [], (List.append_nil _).symm, List.not_mem_nil,
          .inr ⟨text, rfl⟩⟩
      · obtain ⟨whole, line, split, unbroken, fed⟩ := ih
        refine ⟨whole, line ++ [c], ?_, ?_, fed⟩
        · rw [split, List.append_assoc]
        · rw [List.mem_append, List.mem_singleton]
          exact not_or.2 ⟨unbroken, Ne.symm hfeed⟩

/-- Behind lines that end in a line feed there is what follows them, by induction over the lines. -/
theorem afterLineFeeds_append (lines rest : List Char)
    : afterLineFeeds (lines.count '\n' + 1) (lines ++ '\n' :: rest) = some rest := by
  induction lines with
  | nil => simp [afterLineFeeds]
  | cons c others ih =>
      by_cases hfeed : c = '\n'
      · subst hfeed
        rw [List.count_cons_self, List.cons_append, afterLineFeeds, if_pos rfl]
        exact ih
      · rw [List.count_cons_of_ne hfeed, List.cons_append, afterLineFeeds, if_neg hfeed]
        exact ih

namespace BreaksOff

variable {text whole line : List Char}

theorem afterLineFeeds (h : BreaksOff text whole line) (rest : List Char)
    : Text.afterLineFeeds (whole.count '\n') (whole ++ rest) = some rest := by
  rcases h.fed with rfl | ⟨lines, rfl⟩
  · simp [Text.afterLineFeeds]
  · rw [List.count_append, List.count_singleton_self, List.append_assoc]
    exact afterLineFeeds_append lines rest

/-- The place behind the text counts its whole lines and the characters of the last one. -/
theorem advanceOver_start (h : BreaksOff text whole line) (name : String)
    : (Position.start name).advanceOver text
      = ⟨name, whole.count '\n' + 1, line.length + 1⟩ := by
  have hwhole : (Position.start name).advanceOver whole = ⟨name, whole.count '\n' + 1, 1⟩ := by
    rcases h.fed with rfl | ⟨lines, rfl⟩
    · rfl
    · have hline := Position.line_advanceOver (Position.start name) lines
      have hsource := Position.source_advanceOver (Position.start name) lines
      rw [Position.advanceOver_append, Position.advanceOver_cons, Position.advanceOver_nil,
        Position.advance, if_pos rfl, hline, hsource, List.count_append,
        List.count_singleton_self, Nat.add_comm (Position.start name).line]
      rfl
  rw [h.split, Position.advanceOver_append, hwhole,
    Position.advanceOver_of_unbroken _ h.unbroken, Nat.add_comm 1]

/-- A character behind the text is on the line that the text breaks off in. -/
theorem line?_eq (h : BreaksOff text whole line) {source : String} {c : Char}
    {after : List Char} (goesOn : source.toList = text ++ c :: after)
    : line? source (whole.count '\n' + 1)
      = some (String.ofList (firstLine (line ++ c :: after))) := by
  have hlines : Text.afterLineFeeds (whole.count '\n') source.toList
      = some (line ++ c :: after) := by
    rw [goesOn, h.split, List.append_assoc]
    exact h.afterLineFeeds _
  simp only [line?, hlines]
  cases line <;> rfl

end BreaksOff

/-- A character that belongs to no line ending stays on its line, behind what is before it. -/
theorem exists_firstLine_eq {line : List Char} {c : Char} (unbroken : '\n' ∉ line)
    (hfeed : c ≠ '\n') (hreturn : c ≠ '\r') (after : List Char)
    : ∃ more, firstLine (line ++ c :: after) = line ++ c :: more := by
  have hline : ∀ d ∈ line, (d != '\n') = true := by
    intro d member
    have hd : d ≠ '\n' := ne_of_mem_of_not_mem member unbroken
    exact bne_iff_ne.2 hd
  refine ⟨dropTrailing (· == '\r') (after.takeWhile (· != '\n')), ?_⟩
  have hline : (line ++ c :: after).takeWhile (· != '\n')
      = line ++ c :: after.takeWhile (· != '\n') := by
    rw [List.takeWhile_append_of_pos hline, List.takeWhile_cons, if_pos (bne_iff_ne.2 hfeed)]
  have hkept : (c == '\r') = false := beq_eq_false_iff_ne.2 hreturn
  rw [firstLine, hline]
  exact dropTrailing_append_cons (· == '\r') hkept line _

end Lexical.Text
