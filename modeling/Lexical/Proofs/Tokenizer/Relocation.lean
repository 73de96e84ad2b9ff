import Lexical.Proofs.Position
import Lexical.Proofs.Tokenizer.Cut
import Mathlib

/-! Sessions over the same text at different places. Recognizers see the characters that remain and
nothing else of a cursor, so that a session over what remains is the one over a text of its own,
except that all its places are moved. In particular a session can be taken up between two lexemes.
-/

namespace Lexical

-----------------------------------------------------------------------------------------
-- Moving what a session gives
-----------------------------------------------------------------------------------------

/-- The token with its origin moved. -/
def Token.move (f : Position → Position) (token : Token) : Token :=
  { token with origin? := token.origin?.map f }

/-- The lexeme with its start and the origin of its token moved. -/
def Lexeme.move (f : Position → Position) (lexeme : Lexeme) : Lexeme :=
  { lexeme with start := f lexeme.start, token? := lexeme.token?.map (·.move f) }

/-- The error with its place moved. -/
def Error.move (f : Position → Position) (error : Error) : Error :=
  { error with place? := error.place?.map f }

/-- The breach with its place moved, if it has one. -/
def Breach.move (f : Position → Position) : Breach → Breach
  | .stalled rule place => .stalled rule (f place)
  | .notBlank found place => .notBlank found (f place)
  | breach => breach

/-- The failure with its place moved. -/
def Failure.move (f : Position → Position) : Failure → Failure
  | .error wrong => .error (wrong.move f)
  | .breach broken => .breach (broken.move f)

/-- The ending with its place moved. -/
def Ending.move (f : Position → Position) : Ending → Ending
  | .finished => .finished
  | .unexpected character place => .unexpected character (f place)
  | .failed rule error => .failed rule (error.move f)
  | .breached breach => .breached (breach.move f)

/-- The session with all its places moved. -/
def Session.move (f : Position → Position) (session : Session) : Session :=
  ⟨session.lexemes.map (·.move f), session.ending.move f⟩

/-- The tokens or the failure of a tokenizer with all their places moved. -/
def Tokenizer.moveOutcome (f : Position → Position)
    : Except Failure (List Token) → Except Failure (List Token)
  | .ok tokens => .ok (tokens.map (·.move f))
  | .error failure => .error (failure.move f)

variable {f : Position → Position}

theorem Session.tokens_move (session : Session)
    : (session.move f).tokens = session.tokens.map (·.move f) := by
  rw [tokens, move, List.filterMap_map, tokens, List.map_filterMap]
  rfl

/-- Moving the places of a session moves those of its outcome, ending by ending. -/
theorem Session.outcome_move (session : Session)
    : (session.move f).outcome = Tokenizer.moveOutcome f session.outcome := by
  obtain ⟨lexemes, ending⟩ := session
  cases ending with
  | finished => exact congrArg Except.ok (tokens_move ⟨lexemes, .finished⟩)
  | unexpected character place => rfl
  | failed rule error => rfl
  | breached breach => rfl

/-- The outcome of a session that goes on after some lexemes: their tokens come first. -/
theorem Session.outcome_append (done : List Lexeme) (further : Session)
    : Session.outcome ⟨done ++ further.lexemes, further.ending⟩
      = further.outcome.map (done.filterMap Lexeme.token? ++ ·) := by
  obtain ⟨lexemes, ending⟩ := further
  cases ending with
  | finished => exact congrArg Except.ok List.filterMap_append
  | unexpected character place => rfl
  | failed rule error => rfl
  | breached breach => rfl

/-- The number of characters that lexemes have in all. -/
def Lexeme.totalLength : List Lexeme → Nat
  | [] => 0
  | lexeme :: others => lexeme.length + totalLength others

/-- There is a boundary of the session after so many characters: the lexemes before it have as many
in all, and the others come behind it.
-/
structure Session.Boundary (session : Session) (count : Nat) (done further : List Lexeme)
    : Prop where
  lexemes : session.lexemes = done ++ further
  length : Lexeme.totalLength done = count

/-- Lexemes before a boundary are those of the first pieces, by induction over these lexemes. -/
theorem Piece.exists_split {place : Position} {pieces : List Piece} {done further : List Lexeme}
    (h : lexemes place pieces = done ++ further)
    : ∃ first others,
        pieces = first ++ others
        ∧ done = lexemes place first
        ∧ further = lexemes (place.advanceOver (joined first)) others := by
  induction done generalizing place pieces with
  | nil => exact ⟨[], pieces, rfl, rfl, h.symm⟩
  | cons lexeme done ih =>
      cases pieces with
      | nil => cases h
      | cons piece pieces =>
          rw [lexemes, List.cons_append] at h
          obtain ⟨hlexeme, htail⟩ := List.cons.inj h
          obtain ⟨first, others, hpieces, hdone, hfurther⟩ := ih htail
          refine ⟨piece :: first, others, ?_, ?_, ?_⟩
          · rw [hpieces, List.cons_append]
          · rw [lexemes, hlexeme, hdone]
          · rw [hfurther, joined_cons, Position.advanceOver_append]

theorem Piece.totalLength_lexemes (place : Position) (pieces : List Piece)
    : Lexeme.totalLength (lexemes place pieces) = (joined pieces).length := by
  induction pieces generalizing place with
  | nil => rfl
  | cons piece others ih =>
      rw [lexemes, Lexeme.totalLength, ih, joined_cons, List.length_append]
      rfl

-----------------------------------------------------------------------------------------
-- The same text at another place
-----------------------------------------------------------------------------------------

/-- The second view shows the text of the first one, and along this text its places are those of the
first one moved.
-/
structure View.Moved (f : Position → Position) (v w : View) : Prop where
  remaining : w.remaining = v.remaining
  along : ∀ taken, w.origin.advanceOver taken = f (v.origin.advanceOver taken)

namespace View.Moved

variable {v w : View}

theorem origin (h : v.Moved f w) : w.origin = f v.origin := h.along []

/-- Behind as many characters the views are moved in the same way. -/
theorem skip (h : v.Moved f w) (count : Nat) : (v.skip count).Moved f (w.skip count) where
  remaining := by rw [remaining_skip, remaining_skip, h.remaining]
  along taken := by
    have hfurther : (w.skip count).origin.advanceOver taken
        = w.origin.advanceOver (v.remaining.take count ++ taken) := by
      rw [Position.advanceOver_append, View.skip, h.remaining]
    rw [hfurther, h.along, Position.advanceOver_append]
    rfl

end View.Moved

/-- A cursor shows the text that remains there as a text of its own does, moved to the cursor. -/
theorem Cursor.moved_view (c : Cursor) (name : String)
    : (ofText name (String.ofList c.remaining)).view.Moved c.origin.relocate c.view where
  remaining := by
    rw [remaining_view, remaining_view, remaining_ofText, String.toList_ofList]
  along taken := (c.origin.relocate_advanceOver_start name taken).symm

namespace Tokenizer

variable {recognizers : List Recognizer} {v v' w rest rest' : View} {piece : Piece}
  {pieces : List Piece}

/-- The lexeme of a piece moves with the view that it is cut off, as its token has no place of its
own.
-/
theorem Cuts.lexeme_move (cuts : (ofRecognizers recognizers).Cuts v piece w)
    (moved : v.Moved f v')
    : piece.lexeme v'.origin = (piece.lexeme v.origin).move f := by
  cases found : piece.token? with
  | none =>
      simp only [Piece.lexeme, Piece.placed_eq, Lexeme.move, found, moved.origin, Option.map_none]
  | some token =>
      have hunplaced := cuts.origin?_eq_none found
      simp only [Piece.lexeme, Piece.placed_eq, Lexeme.move, Token.orAt, Token.move, found,
        hunplaced, moved.origin, Option.map_some, Option.none_or]

/-- At a moved view a decomposition has the same pieces, and its lexemes and its rest are moved. By
induction over the pieces: each recognizer reads the same wherever the text stands.
-/
theorem Decomposes.move (h : (ofRecognizers recognizers).Decomposes v pieces rest)
    (moved : v.Moved f v')
    : ∃ rest',
        (ofRecognizers recognizers).Decomposes v' pieces rest'
        ∧ rest.Moved f rest'
        ∧ Piece.lexemes v'.origin pieces = (Piece.lexemes v.origin pieces).map (·.move f) := by
  induction h generalizing v' with
  | stuck stuck => exact ⟨v', .stuck (stuck.transport moved.remaining), moved, rfl⟩
  | @cut v piece w others rest cuts _ ih =>
      obtain ⟨recognizer, reads⟩ := cuts.exists_reads
      have after : w = v.skip piece.text.length := by
        rw [reads.length_text]
        exact reads.after
      have cuts' := (reads.transport moved.remaining).cuts
      obtain ⟨rest', further', hrest, hlexemes⟩ := ih (after ▸ moved.skip piece.text.length)
      refine ⟨rest', .cut cuts' further', hrest, ?_⟩
      rw [Piece.lexemes, Piece.lexemes, List.map_cons, ← cuts'.origin, ← cuts.origin, hlexemes,
        cuts.lexeme_move moved]

/-- Where no piece can be cut off, the ending moves with the view: the reason for it is in the
text.
-/
theorem Stuck.endingAt_move (stuck : (ofRecognizers recognizers).Stuck rest)
    (moved : rest.Moved f rest')
    : (ofRecognizers recognizers).endingAt rest'
      = ((ofRecognizers recognizers).endingAt rest).move f := by
  have stops := stuck.stops
  generalize (ofRecognizers recognizers).endingAt rest = ending at stops ⊢
  rw [endingAt, chosen_ofRecognizers, moved.remaining]
  cases stops with
  | finished empty =>
      rw [empty]
      rfl
  | unexpected more idle =>
      rw [idle, more, moved.origin]
      rfl
  | @failed recognizer cause first answer blames =>
      have starts := starts_of_first first
      obtain ⟨character, others, hremaining⟩ :=
        List.exists_cons_of_ne_nil (Recognizer.ne_nil_of_starts starts)
      have hanswer : recognizer.toRule.answerAt rest' = Rule.reject cause := by
        rw [Recognizer.answerAt_toRule, moved.remaining,
          Recognizer.reading_eq_of_starts starts rest'.origin rest.origin, answer]
      rw [first, hremaining]
      simp only [Option.map_some, hanswer, Rule.reject, moved.origin]
      rfl

/-- What a session gives at the place of a view, and what it gives at a moved one. -/
theorem session_move (recognizers : List Recognizer) {c d : Cursor}
    (moved : c.view.Moved f d.view)
    : ((ofRecognizers recognizers).session d).1
      = ((ofRecognizers recognizers).session c).1.move f := by
  obtain ⟨pieces, rest, decomposes⟩ := (ofRecognizers recognizers).exists_decomposes c.view
  obtain ⟨rest', decomposes', hrest, hlexemes⟩ := decomposes.move moved
  rw [session_of_decomposes decomposes, session_of_decomposes decomposes', Session.move,
    decomposes.stuck_rest.endingAt_move hrest]
  exact congrArg (Session.mk · _) hlexemes

-----------------------------------------------------------------------------------------
-- Taking a session up
-----------------------------------------------------------------------------------------

/-- Behind the first pieces of a decomposition it goes on with the others. -/
theorem Decomposes.behind {first others : List Piece}
    (h : (ofRecognizers recognizers).Decomposes v (first ++ others) rest)
    : ∃ w,
        (ofRecognizers recognizers).Decomposes w others rest
        ∧ v.remaining = Piece.joined first ++ w.remaining
        ∧ w.origin = v.origin.advanceOver (Piece.joined first) := by
  induction first generalizing v with
  | nil => exact ⟨v, h, rfl, rfl⟩
  | cons piece first ih =>
      cases h with
      | cut cuts further =>
          obtain ⟨w, hothers, hremaining, horigin⟩ := ih further
          refine ⟨w, hothers, ?_, ?_⟩
          · rw [cuts.split, hremaining, Piece.joined_cons, List.append_assoc]
          · rw [horigin, cuts.origin, Piece.joined_cons, Position.advanceOver_append]

/-- Between two lexemes of a session the further ones, and how it ends, come from the view behind as
many characters as the lexemes before have.
-/
theorem exists_decomposes_behind {c : Cursor} {done further : List Lexeme}
    (split : ((ofRecognizers recognizers).session c).1.lexemes = done ++ further)
    : ∃ others w rest,
        (ofRecognizers recognizers).Decomposes w others rest
        ∧ w.remaining = c.remaining.drop (Lexeme.totalLength done)
        ∧ w.origin = c.origin.advanceOver (c.remaining.take (Lexeme.totalLength done))
        ∧ further = Piece.lexemes w.origin others
        ∧ ((ofRecognizers recognizers).session c).1.ending
          = (ofRecognizers recognizers).endingAt rest := by
  obtain ⟨pieces, rest, decomposes⟩ := (ofRecognizers recognizers).exists_decomposes c.view
  have hsession := session_of_decomposes decomposes
  rw [hsession] at split ⊢
  obtain ⟨first, others, rfl, rfl, hfurther⟩ := Piece.exists_split split
  obtain ⟨w, behind, hsplit, hplace⟩ := decomposes.behind
  rw [Cursor.remaining_view] at hsplit
  rw [Cursor.origin_view] at hplace
  refine ⟨others, w, rest, behind, ?_, ?_, ?_, rfl⟩
  · rw [Piece.totalLength_lexemes, hsplit, List.drop_left]
  · rw [Piece.totalLength_lexemes, hsplit, List.take_left, hplace]
  · rw [hfurther, hplace]

/-- At a boundary of the session over a text, the text behind it is all that the others come from:
they are found by a session of their own. Witness: the cursor that shows the view behind the
lexemes before the boundary.
-/
theorem exists_session_behind {name before after : String} {done further : List Lexeme}
    (boundary
      : ((ofRecognizers recognizers).sessionOf name (before ++ after)).Boundary before.length
          done further)
    : ∃ d : Cursor,
        d.remaining = after.toList
        ∧ d.origin = (Position.start name).advanceOver before.toList
        ∧ further = ((ofRecognizers recognizers).session d).1.lexemes
        ∧ ((ofRecognizers recognizers).sessionOf name (before ++ after)).ending
          = ((ofRecognizers recognizers).session d).1.ending := by
  obtain ⟨others, w, rest, behind, hremaining, horigin, hfurther, hending⟩ :=
    exists_decomposes_behind boundary.lexemes
  rw [boundary.length, Cursor.remaining_ofText, String.toList_append, ← String.length_toList]
    at hremaining horigin
  rw [List.drop_left] at hremaining
  rw [List.take_left] at horigin
  rw [← View.view_cursor w] at behind
  have hbehind := session_of_decomposes behind
  refine ⟨w.cursor, ?_, horigin, ?_, ?_⟩
  · rw [← Cursor.remaining_view, View.view_cursor, hremaining]
  · rw [hbehind, hfurther]
    rfl
  · rw [hbehind]
    exact hending

/-- What is counted from the start of a source is counted from the start of what comes behind a
beginning of it, as lines and columns are no larger there.
-/
theorem countsOver_behind {name : String} {before after : List Char} {place : Position}
    (counts : (Position.start name).CountsOver (before ++ after))
    (hplace : (Position.start name).advanceOver? before = some place)
    : place = (Position.start name).advanceOver before
      ∧ place.CountsOver after
      ∧ (Position.start name).CountsOver after := by
  obtain ⟨hbefore, hafter⟩ := counts.split
  obtain rfl := Option.some.inj (hplace.symm.trans hbefore)
  have hfirst : 1 ≤ (Position.start name).line ∧ 1 ≤ (Position.start name).column :=
    ⟨Nat.le_refl 1, Nat.le_refl 1⟩
  obtain ⟨hline, hcolumn⟩ := Position.one_le_advanceOver hfirst.1 hfirst.2 before
  exact ⟨rfl, hafter, hafter.of_le hline hcolumn⟩

/-- A session depends on what is left of the text and on nothing else, where lines and columns are
counted in 32 bits. Over what remains at a cursor it is the session over a text of its own, with its
places moved to the cursor; and behind any boundary of a session over a text come the lexemes and
the ending of the session over the text behind it, moved there. So the tokens are those found
before, and then those of the remaining text, or its failure. Whatever place the session of its own
counts to, the other one counts to that place moved.
-/
theorem session_depends_on_remaining (recognizers : List Recognizer) (name : String)
    : (∀ c : Cursor,
        (Position.start name).CountsOver c.remaining
        → c.origin.CountsOver c.remaining
        → ((ofRecognizers recognizers).session c).1
            = ((ofRecognizers recognizers).sessionOf name (String.ofList c.remaining)).move
                c.origin.relocate
          ∧ ((ofRecognizers recognizers).tokenize c).1
            = moveOutcome c.origin.relocate
                ((ofRecognizers recognizers).tokenizeText name (String.ofList c.remaining))
          ∧ Position.MovesOver c.origin.relocate (.start name) c.origin c.remaining)
      ∧ ∀ before after done further place,
          (Position.start name).CountsOver (before ++ after).toList
          → ((ofRecognizers recognizers).sessionOf name (before ++ after)).Boundary before.length
            done further
          → (Position.start name).advanceOver? before.toList = some place
          → further
              = ((ofRecognizers recognizers).sessionOf name after).lexemes.map
                  (·.move place.relocate)
            ∧ ((ofRecognizers recognizers).sessionOf name (before ++ after)).ending
              = ((ofRecognizers recognizers).sessionOf name after).ending.move place.relocate
            ∧ (ofRecognizers recognizers).tokenizeText name (before ++ after)
              = (moveOutcome place.relocate
                  ((ofRecognizers recognizers).tokenizeText name after)).map
                  (done.filterMap Lexeme.token? ++ ·)
            ∧ Position.MovesOver place.relocate (.start name) place after.toList := by
  have hcursor (c : Cursor)
      : ((ofRecognizers recognizers).session c).1
        = ((ofRecognizers recognizers).sessionOf name (String.ofList c.remaining)).move
            c.origin.relocate :=
    session_move recognizers (c.moved_view name)
  have hmoves {place : Position} {text : List Char}
      (counts : (Position.start name).CountsOver text) (counts' : place.CountsOver text)
      : Position.MovesOver place.relocate (.start name) place text :=
    Position.movesOver_of_along
      (fun taken => (place.relocate_advanceOver_start name taken).symm) counts counts'
  constructor
  · intro c counts counts'
    refine ⟨hcursor c, ?_, hmoves counts counts'⟩
    have houtcome : ((ofRecognizers recognizers).tokenize c).1
        = ((ofRecognizers recognizers).session c).1.outcome := rfl
    rw [houtcome, hcursor, Session.outcome_move]
    rfl
  · intro before after done further place counts boundary hplace
    rw [String.toList_append] at counts
    obtain ⟨hplace, hafter, hstart⟩ := countsOver_behind counts hplace
    obtain ⟨d, hremaining, horigin, hfurther, hending⟩ := exists_session_behind boundary
    have hsession := hcursor d
    rw [hremaining, String.ofList_toList, horigin, ← hplace] at hsession
    rw [hsession] at hfurther hending
    refine ⟨hfurther, hending, ?_, hmoves hstart hafter⟩
    have hwhole : (ofRecognizers recognizers).sessionOf name (before ++ after)
        = ⟨done ++ further,
            ((ofRecognizers recognizers).sessionOf name (before ++ after)).ending⟩ := by
      rw [← boundary.lexemes]
    rw [tokenizeText, hwhole, hending, hfurther, Session.outcome_append, Session.outcome_move]
    rfl

/-- Two lines, taken up at the second one. -/
theorem session_taken_up_at_line
    : (Position.start "notes").CountsOver ("a\n" ++ "b #").toList
      ∧ ((ofRecognizers [.blank, .words]).sessionOf "notes" ("a\n" ++ "b #")).Boundary 2
        [⟨Recognizer.words.name, ⟨"notes", 1, 1⟩, 1,
            some ⟨.identifier, .text "a", some ⟨"notes", 1, 1⟩⟩⟩,
          ⟨Recognizer.blank.name, ⟨"notes", 1, 2⟩, 1, none⟩]
        [⟨Recognizer.words.name, ⟨"notes", 2, 1⟩, 1,
            some ⟨.identifier, .text "b", some ⟨"notes", 2, 1⟩⟩⟩,
          ⟨Recognizer.blank.name, ⟨"notes", 2, 2⟩, 1, none⟩]
      ∧ (Position.start "notes").advanceOver? "a\n".toList = some ⟨"notes", 2, 1⟩
      ∧ ((ofRecognizers [.blank, .words]).sessionOf "notes" ("a\n" ++ "b #")).ending
        = ((ofRecognizers [.blank, .words]).sessionOf "notes" "b #").ending.move
            (Position.relocate ⟨"notes", 2, 1⟩)
      ∧ ((ofRecognizers [.blank, .words]).session (Cursor.ofText "notes" "b #")).1
        = ((ofRecognizers [.blank, .words]).sessionOf "notes"
              (String.ofList (Cursor.ofText "notes" "b #").remaining)).move
            (Position.relocate ⟨"notes", 1, 1⟩) := by
  have boundary
      : ((ofRecognizers [.blank, .words]).sessionOf "notes" ("a\n" ++ "b #")).Boundary 2
          [⟨Recognizer.words.name, ⟨"notes", 1, 1⟩, 1,
              some ⟨.identifier, .text "a", some ⟨"notes", 1, 1⟩⟩⟩,
            ⟨Recognizer.blank.name, ⟨"notes", 1, 2⟩, 1, none⟩]
          [⟨Recognizer.words.name, ⟨"notes", 2, 1⟩, 1,
              some ⟨.identifier, .text "b", some ⟨"notes", 2, 1⟩⟩⟩,
            ⟨Recognizer.blank.name, ⟨"notes", 2, 2⟩, 1, none⟩] :=
    ⟨by cbv, rfl⟩
  have counts : (Position.start "notes").CountsOver ("a\n" ++ "b #").toList := by
    decide
  have place : (Position.start "notes").advanceOver? "a\n".toList = some ⟨"notes", 2, 1⟩ := by
    decide
  have further : (Position.start "notes").CountsOver (Cursor.ofText "notes" "b #").remaining := by
    rw [Cursor.remaining_ofText]
    decide
  obtain ⟨moves, resumes⟩ := session_depends_on_remaining [.blank, .words] "notes"
  obtain ⟨-, hending, -⟩ := resumes "a\n" "b #" _ _ _ counts boundary place
  exact ⟨counts, boundary, place, hending, (moves _ further further).1⟩

end Tokenizer

end Lexical
