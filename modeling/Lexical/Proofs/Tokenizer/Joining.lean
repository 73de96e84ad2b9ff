import Lexical.Proofs.Recognizer.Separation
import Lexical.Proofs.Tokenizer.Relocation

/-! Texts joined by a line feed. Where blanks come first and every recognizer heeds line feeds, the
pieces of the first text are cut off as if there were no other, then the line feed is, and then the
second text is left, as many lines further down.
-/

namespace Lexical

/-- The view of the same place where the text goes on. -/
def View.extend (more : List Char) (v : View) : View :=
  { v with remaining := v.remaining ++ more }

theorem View.skip_extend {v : View} {count : Nat} (inside : count ≤ v.remaining.length)
    (more : List Char)
    : (v.extend more).skip count = (v.skip count).extend more := by
  simp only [extend, skip, List.drop_append_of_le_length inside,
    List.take_append_of_le_length inside]

/-- A text and a line feed and a second text are one text, seen from the start of the first one. -/
theorem Cursor.extend_view_ofText (name first second : String)
    : (ofText name first).view.extend ('\n' :: second.toList)
      = (ofText name (first ++ "\n" ++ second)).view := by
  simp only [view, View.extend, remaining_ofText, String.toList_append, List.append_assoc]
  rfl

theorem Piece.lexemes_append (place : Position) (first others : List Piece)
    : lexemes place (first ++ others)
      = lexemes place first ++ lexemes (place.advanceOver (joined first)) others := by
  induction first generalizing place with
  | nil => rfl
  | cons piece first ih =>
      simp only [List.cons_append, lexemes, ih, joined_cons, Position.advanceOver_append]

/-- A line feed behind a text leads to the start of the line below its last one. -/
theorem Position.advance_lineFeed (name : String) (taken : List Char)
    : ((start name).advanceOver taken).advance '\n'
      = lower (1 + taken.count '\n') (start name) := by
  have hline := (start name).line_advanceOver taken
  have hsource := (start name).source_advanceOver taken
  rw [advance, if_pos rfl, hline, hsource, Nat.add_assoc, Nat.add_comm (taken.count '\n') 1]
  rfl

/-- Where lines and columns are counted over two texts with a line feed between them, the second
text is counted from the start of a line, as many lines further down as there are line feeds before
it.
-/
theorem Position.movesOver_behind_lineFeed {name : String} {first second : List Char}
    (counts : (start name).CountsOver (first ++ ['\n'] ++ second))
    : (start name).advanceOver? (first ++ ['\n'])
        = some (lower (1 + first.count '\n') (start name))
      ∧ MovesOver (lower (1 + first.count '\n')) (start name)
          (lower (1 + first.count '\n') (start name)) second := by
  have hplace : (start name).advanceOver (first ++ ['\n'])
      = lower (1 + first.count '\n') (start name) := by
    rw [advanceOver_append, ← advance_lineFeed]
    rfl
  obtain ⟨hfirst, hsecond⟩ := counts.split
  rw [hplace] at hsecond
  rw [CountsOver, hplace] at hfirst
  refine ⟨hfirst, movesOver_of_along (fun taken => (lower_advanceOver ..).symm) ?_ hsecond⟩
  exact hsecond.of_le (Nat.le_add_right ..) (Nat.le_refl _)

namespace Tokenizer

variable {recognizers : List Recognizer} {v w rest : View} {piece : Piece}
  {pieces : List Piece}

/-- What is read of a text is read with a line feed behind the text. -/
theorem Reads.extend {recognizer : Recognizer}
    (heeds : ∀ other ∈ recognizers, other.HeedsLineFeeds)
    (h : Reads recognizers v piece w recognizer) (more : List Char)
    : Reads recognizers (v.extend ('\n' :: more)) piece (w.extend ('\n' :: more))
        recognizer := by
  have member := List.mem_of_find?_eq_some h.first
  have hreading := (heeds recognizer member).reading h.starts h.answer more
  have hlength := Recognizer.length_reading_le h.starts v.origin
  refine ⟨?_, ?_, h.rule, ?_, ?_⟩
  · rw [← h.first]
    apply List.find?_congr
    intro other member
    exact (heeds other member).starts (Recognizer.ne_nil_of_starts h.starts) more
  · rw [← h.answer]
    exact congrArg Reading.answer hreading
  · rw [h.text]
    simp only [View.extend, hreading, List.take_append_of_le_length hlength]
  · rw [h.after, ← View.skip_extend hlength]
    simp only [View.extend, hreading]

/-- A decomposition goes on with what comes behind the text, by induction over its pieces: none of
them sees the line feed.
-/
theorem Decomposes.join (heeds : ∀ other ∈ recognizers, other.HeedsLineFeeds)
    (h : (ofRecognizers recognizers).Decomposes v pieces rest) {more : List Char}
    {pieces' : List Piece} {rest' : View}
    (further
      : (ofRecognizers recognizers).Decomposes (rest.extend ('\n' :: more)) pieces' rest')
    : (ofRecognizers recognizers).Decomposes (v.extend ('\n' :: more)) (pieces ++ pieces')
        rest' := by
  induction h with
  | stuck _ => exact further
  | cut cuts _ ih =>
      obtain ⟨recognizer, reads⟩ := cuts.exists_reads
      exact .cut (reads.extend heeds more).cuts (ih further)

/-- The piece of a line feed. -/
def lineFeed : Piece := ⟨Recognizer.blank.toRule, ['\n'], none⟩

/-- Where blanks come first, a line feed is cut off as one. -/
theorem cuts_lineFeed (others : List Recognizer) {more : List Char}
    (next : v.remaining = '\n' :: more)
    : (ofRecognizers (.blank :: others)).Cuts v lineFeed (v.skip 1) := by
  have first : (.blank :: others).find? (·.starts v.remaining) = some .blank := by
    rw [next]
    rfl
  have reading : Recognizer.blank.reading v.origin v.remaining = ⟨.ok none, 1⟩ := by
    rw [next]
    rfl
  have cuts := (reads_of_reading first reading).cuts
  rw [next] at cuts
  exact cuts

/-- Pieces in front of a line feed give their tokens before the outcome of what comes behind it. -/
theorem outcome_behind_lineFeed (place : Position) (pieces others : List Piece) (ending : Ending)
    : Session.outcome ⟨Piece.lexemes place (pieces ++ lineFeed :: others), ending⟩
      = (Session.outcome
          ⟨Piece.lexemes ((place.advanceOver (Piece.joined pieces)).advance '\n') others,
            ending⟩).map (Piece.tokens place pieces ++ ·) := by
  have hlexemes : Piece.lexemes place (pieces ++ lineFeed :: others)
      = Piece.lexemes place pieces ++ [lineFeed.lexeme (place.advanceOver (Piece.joined pieces))]
        ++ Piece.lexemes ((place.advanceOver (Piece.joined pieces)).advance '\n') others := by
    rw [Piece.lexemes_append, Piece.lexemes, List.append_assoc]
    rfl
  have htokens : (Piece.lexemes place pieces
        ++ [lineFeed.lexeme (place.advanceOver (Piece.joined pieces))]).filterMap Lexeme.token?
      = Piece.tokens place pieces := by
    rw [List.filterMap_append, Piece.filterMap_lexemes]
    exact List.append_nil _
  rw [hlexemes, ← htokens]
  exact Session.outcome_append _ ⟨_, _⟩

/-- Behind a text and a line feed the second text stands as if it were alone, but further down. -/
theorem moved_behind_lineFeed {name : String} {taken : List Char} (ended : rest.remaining = [])
    (place : rest.origin = (Position.start name).advanceOver taken) (second : String)
    : (Cursor.ofText name second).view.Moved (Position.lower (1 + taken.count '\n'))
        ((rest.extend ('\n' :: second.toList)).skip 1) where
  remaining := by
    rw [View.remaining_skip, View.extend, ended, Cursor.remaining_view, Cursor.remaining_ofText]
    rfl
  along further := by
    have hplace : ((rest.extend ('\n' :: second.toList)).skip 1).origin
        = Position.lower (1 + taken.count '\n') (Position.start name) := by
      rw [← Position.advance_lineFeed, ← place, View.skip, View.extend, ended]
      rfl
    rw [hplace, ← Position.lower_advanceOver]
    rfl

/-- Two texts joined by a line feed give the tokens of the first one, if there are such, and then
what the second one gives, as many lines further down.
-/
theorem tokenizeText_join {others : List Recognizer}
    (heeds : ∀ other ∈ others, other.HeedsLineFeeds) {name first : String}
    {tokens : List Token}
    (success : (ofRecognizers (.blank :: others)).tokenizeText name first = .ok tokens)
    (second : String)
    : (ofRecognizers (.blank :: others)).tokenizeText name (first ++ "\n" ++ second)
      = (moveOutcome (Position.lower (1 + first.toList.count '\n'))
          ((ofRecognizers (.blank :: others)).tokenizeText name second)).map (tokens ++ ·) := by
  have heeds : ∀ other ∈ .blank :: others, other.HeedsLineFeeds :=
    List.forall_mem_cons.2 ⟨Recognizer.heedsBlanks_blank.heedsLineFeeds, heeds⟩
  obtain ⟨pieces, rest, decomposes, ended, rfl⟩ := exists_decomposes_of_ok success
  obtain ⟨hsplit, horigin⟩ := decomposes.split
  have horigin : rest.origin = (Position.start name).advanceOver (Piece.joined pieces) := horigin
  rw [ended, List.append_nil, Cursor.remaining_view, Cursor.remaining_ofText] at hsplit
  have moved := moved_behind_lineFeed ended (hsplit ▸ horigin) second
  have cuts : (ofRecognizers (.blank :: others)).Cuts (rest.extend ('\n' :: second.toList)) lineFeed
      ((rest.extend ('\n' :: second.toList)).skip 1) := by
    apply cuts_lineFeed
    rw [View.extend, ended, List.nil_append]
  have hplace := cuts.origin
  -- The session over the second text is the one of a cursor behind the line feed.
  rw [← View.view_cursor ((rest.extend ('\n' :: second.toList)).skip 1)] at moved cuts hplace
  generalize ((rest.extend ('\n' :: second.toList)).skip 1).cursor = d at moved cuts hplace
  have hplace : d.origin
      = ((Position.start name).advanceOver (Piece.joined pieces)).advance '\n' := by
    rw [← horigin]
    exact hplace
  obtain ⟨pieces', rest', further⟩ :=
    (ofRecognizers (.blank :: others)).exists_decomposes d.view
  have hsecond := session_of_decomposes further
  rw [session_move _ moved, hplace] at hsecond
  have whole := decomposes.join heeds (.cut cuts further)
  rw [Cursor.extend_view_ofText] at whole
  calc (ofRecognizers (.blank :: others)).tokenizeText name (first ++ "\n" ++ second)
      = Session.outcome
          ⟨Piece.lexemes (Position.start name) (pieces ++ lineFeed :: pieces'),
            (ofRecognizers (.blank :: others)).endingAt rest'⟩ :=
        congrArg Session.outcome (session_of_decomposes whole)
    _ = (Session.outcome
          (((ofRecognizers (.blank :: others)).sessionOf name second).move
            (Position.lower (1 + first.toList.count '\n')))).map
          (Piece.tokens (Position.start name) pieces ++ ·) := by
        rw [outcome_behind_lineFeed, ← hsecond]
        rfl
    _ = (moveOutcome (Position.lower (1 + first.toList.count '\n'))
          ((ofRecognizers (.blank :: others)).tokenizeText name second)).map
          (Piece.tokens (Position.start name) pieces ++ ·) := by
        rw [Session.outcome_move]
        rfl

end Tokenizer

end Lexical
