import Lexical.Proofs.Recognizer.Lexeme
import Lexical.Proofs.Tokenizer.Decomposition

/-! How a tokenizer of recognizers takes a text apart: where the first recognizer that starts at the
text makes something of it, its reading is the piece that is cut off, and where none is cut off,
either the text has ended or it is to blame.
-/

namespace Lexical.Tokenizer

variable {recognizers : List Recognizer} {v w rest : View} {piece : Piece}
  {pieces : List Piece}

-----------------------------------------------------------------------------------------
-- Pieces of recognizers
-----------------------------------------------------------------------------------------

theorem starts_of_first {recognizer : Recognizer} {text : List Char}
    (first : recognizers.find? (·.starts text) = some recognizer)
    : recognizer.starts text := by
  have hstarts := List.find?_some first
  exact hstarts

/-- The first recognizer that starts at the text makes something of it, and that is the piece: what
it takes of the text, with the token that it gives for it.
-/
structure Reads (recognizers : List Recognizer) (v : View) (piece : Piece) (w : View)
    (recognizer : Recognizer)
    : Prop where
  first : recognizers.find? (·.starts v.remaining) = some recognizer
  answer : (recognizer.reading v.origin v.remaining).answer = .ok piece.token?
  rule : piece.rule = recognizer.toRule
  text : piece.text = v.remaining.take (recognizer.reading v.origin v.remaining).length
  after : w = v.skip (recognizer.reading v.origin v.remaining).length

theorem Reads.starts {recognizer : Recognizer} (h : Reads recognizers v piece w recognizer)
    : recognizer.starts v.remaining :=
  starts_of_first h.first

/-- The piece is as long as the reading, which ends in the text. -/
theorem Reads.length_text {recognizer : Recognizer} (h : Reads recognizers v piece w recognizer)
    : piece.text.length = (recognizer.reading v.origin v.remaining).length := by
  rw [h.text, List.length_take, Nat.min_eq_left (Recognizer.length_reading_le h.starts _)]

/-- The first recognizer that starts reads what it accepts. -/
theorem reads_of_answer {recognizer : Recognizer} {token? : Option Token}
    (first : recognizers.find? (·.starts v.remaining) = some recognizer)
    (answer : (recognizer.reading v.origin v.remaining).answer = .ok token?)
    : Reads recognizers v
        ⟨recognizer.toRule,
          v.remaining.take (recognizer.reading v.origin v.remaining).length, token?⟩
        (v.skip (recognizer.reading v.origin v.remaining).length) recognizer :=
  ⟨first, answer, rfl, rfl, rfl⟩

theorem reads_of_reading {recognizer : Recognizer} {token? : Option Token} {length : Nat}
    (first : recognizers.find? (·.starts v.remaining) = some recognizer)
    (reading : recognizer.reading v.origin v.remaining = ⟨.ok token?, length⟩)
    : Reads recognizers v ⟨recognizer.toRule, v.remaining.take length, token?⟩ (v.skip length)
        recognizer := by
  have reads := reads_of_answer first (congrArg Reading.answer reading)
  rwa [reading] at reads

/-- What a recognizer reads is cut off, since it takes at least one character. -/
theorem Reads.cuts {recognizer : Recognizer} (h : Reads recognizers v piece w recognizer)
    : (ofRecognizers recognizers).Cuts v piece w where
  chosen := by rw [chosen_ofRecognizers, h.first, h.rule, Option.map_some]
  answer := by rw [h.rule, Recognizer.answerAt_toRule, h.answer]
  after := by rw [h.rule, Recognizer.viewAfter_toRule, h.after]
  split := by rw [h.text, h.after, View.remaining_skip, List.take_append_drop]
  nonempty := by
    have hmoves := (Recognizer.reading_sound v.origin h.starts).moves
    rw [← h.length_text] at hmoves
    exact List.length_pos_iff.1 hmoves

/-- Whatever recognizers cut off, one of them reads. -/
theorem Cuts.exists_reads (h : (ofRecognizers recognizers).Cuts v piece w)
    : ∃ recognizer, Reads recognizers v piece w recognizer := by
  have hchosen := h.chosen
  rw [chosen_ofRecognizers, Option.map_eq_some_iff] at hchosen
  obtain ⟨recognizer, first, rule⟩ := hchosen
  have answer := h.answer
  have after := h.after
  rw [← rule, Recognizer.answerAt_toRule] at answer
  rw [← rule, Recognizer.viewAfter_toRule] at after
  refine ⟨recognizer, first, answer, rule.symm, ?_, after.symm⟩
  have hsplit := h.split
  rw [← after, View.remaining_skip] at hsplit
  conv at hsplit => lhs; rw [← List.take_append_drop
    (recognizer.reading v.origin v.remaining).length v.remaining]
  exact (List.append_cancel_right hsplit).symm

/-- At the same text the same is read, wherever it stands. -/
theorem Reads.transport {recognizer : Recognizer} (h : Reads recognizers v piece w recognizer)
    {v' : View} (same : v'.remaining = v.remaining)
    : Reads recognizers v' piece (v'.skip piece.text.length) recognizer where
  first := by rw [same, h.first]
  answer := by rw [same, Recognizer.reading_eq_of_starts h.starts v'.origin v.origin, h.answer]
  rule := h.rule
  text := by rw [same, Recognizer.reading_eq_of_starts h.starts v'.origin v.origin, h.text]
  after := by
    rw [same, Recognizer.reading_eq_of_starts h.starts v'.origin v.origin, h.length_text]

/-- Recognizers do not place their tokens. -/
theorem Cuts.origin?_eq_none {token : Token} (h : (ofRecognizers recognizers).Cuts v piece w)
    (found : piece.token? = some token)
    : token.origin? = none := by
  obtain ⟨recognizer, reads⟩ := h.exists_reads
  have answer := reads.answer
  rw [found] at answer
  exact Recognizer.origin?_of_reading answer

-----------------------------------------------------------------------------------------
-- Endings of recognizers
-----------------------------------------------------------------------------------------

/-- How a session of recognizers ends at a text and its place: the text has ended, no recognizer
starts at it, or the first one that does rejects it. Errors are placed where the text is.
-/
inductive Stops (recognizers : List Recognizer) (place : Position) (text : List Char)
    : Ending → Prop
  | finished (empty : text = []) : Stops recognizers place text .finished
  | unexpected {character others} (more : text = character :: others)
    (idle : recognizers.find? (·.starts text) = none)
    : Stops recognizers place text (.unexpected character place)
  | failed {recognizer cause} (first : recognizers.find? (·.starts text) = some recognizer)
    (answer : (recognizer.reading place text).answer = Rule.reject cause)
    (blames : cause.blamesText)
    : Stops recognizers place text (.failed recognizer.name ⟨cause, some place⟩)

/-- Where recognizers can cut nothing off, they stop in one of these ways. A recognizer that starts
and accepts is ruled out, as it would have taken something.
-/
theorem Stuck.stops (stuck : (ofRecognizers recognizers).Stuck rest)
    : Stops recognizers rest.origin rest.remaining
        ((ofRecognizers recognizers).endingAt rest) := by
  by_cases hempty : rest.remaining = []
  · have hending : (ofRecognizers recognizers).endingAt rest = .finished := by
      rw [endingAt, hempty]
    rw [hending]
    exact .finished hempty
  · obtain ⟨character, others, hremaining⟩ := List.exists_cons_of_ne_nil hempty
    cases hfirst : recognizers.find? (·.starts rest.remaining) with
    | none =>
        have hchosen : (ofRecognizers recognizers).chosen rest = none := by
          rw [chosen_ofRecognizers, hfirst, Option.map_none]
        have hending : (ofRecognizers recognizers).endingAt rest
            = .unexpected character rest.origin := by
          simp only [endingAt, hremaining, hchosen]
        rw [hending]
        exact .unexpected hremaining hfirst
    | some recognizer =>
        have hchosen : (ofRecognizers recognizers).chosen rest = some recognizer.toRule := by
          rw [chosen_ofRecognizers, hfirst, Option.map_some]
        have sound := Recognizer.reading_sound rest.origin (starts_of_first hfirst)
        rcases hanswer : (recognizer.reading rest.origin rest.remaining).answer
          with failure | token?
        · obtain ⟨cause, rfl, blames⟩ := sound.fails failure hanswer
          have hending : (ofRecognizers recognizers).endingAt rest
              = .failed recognizer.name ⟨cause, some rest.origin⟩ := by
            rw [← Recognizer.answerAt_toRule] at hanswer
            simp only [endingAt, hremaining, hchosen, hanswer]
            rfl
          rw [hending]
          exact .failed hfirst hanswer blames
        · exact (stuck _ _ (reads_of_answer hfirst hanswer).cuts).elim

/-- At the same text recognizers are stuck again, wherever it stands. -/
theorem Stuck.transport (stuck : (ofRecognizers recognizers).Stuck rest) {rest' : View}
    (same : rest'.remaining = rest.remaining)
    : (ofRecognizers recognizers).Stuck rest' := by
  intro piece w cuts
  obtain ⟨recognizer, reads⟩ := cuts.exists_reads
  exact stuck _ _ (reads.transport same.symm).cuts

/-- At the same text a decomposition has the same pieces, wherever it stands. -/
theorem Decomposes.transport (h : (ofRecognizers recognizers).Decomposes v pieces rest)
    {v' : View} (same : v'.remaining = v.remaining)
    : ∃ rest',
        (ofRecognizers recognizers).Decomposes v' pieces rest'
        ∧ rest'.remaining = rest.remaining := by
  induction h generalizing v' with
  | stuck stuck => exact ⟨v', .stuck (stuck.transport same), same⟩
  | @cut v piece w others rest cuts _ ih =>
      obtain ⟨recognizer, reads⟩ := cuts.exists_reads
      have cuts' := (reads.transport same).cuts
      have hafter : (v'.skip piece.text.length).remaining = w.remaining :=
        List.append_cancel_left (cuts'.split.symm.trans (same.trans cuts.split))
      obtain ⟨rest', further', hrest⟩ := ih hafter
      exact ⟨rest', .cut cuts' further', hrest⟩

-----------------------------------------------------------------------------------------
-- The first piece
-----------------------------------------------------------------------------------------

/-- Where the first recognizer that starts accepts, its reading is the first lexeme. -/
theorem Decomposes.exists_lexemes_eq_cons {recognizer : Recognizer} {token? : Option Token}
    {length : Nat} (h : (ofRecognizers recognizers).Decomposes v pieces rest)
    (first : recognizers.find? (·.starts v.remaining) = some recognizer)
    (reading : recognizer.reading v.origin v.remaining = ⟨.ok token?, length⟩)
    : ∃ others,
        Piece.lexemes v.origin pieces
        = ⟨recognizer.name, v.origin, length, token?.map (·.orAt v.origin)⟩ :: others := by
  have reads := reads_of_reading first reading
  have hlength := reads.length_text
  rw [reading] at hlength
  cases h with
  | stuck stuck => exact (stuck _ _ reads.cuts).elim
  | cut cuts _ =>
      obtain ⟨rfl, -⟩ := reads.cuts.unique cuts
      rw [Piece.lexemes, Piece.lexeme, Piece.placed_eq, hlength]
      exact ⟨_, rfl⟩

/-- Where no recognizer starts, a session ends with the character there if there is one. -/
theorem endingAt_eq_unexpected_iff (idle : recognizers.find? (·.starts v.remaining) = none)
    {character : Char}
    : (ofRecognizers recognizers).endingAt v = .unexpected character v.origin
      ↔ v.remaining.head? = some character := by
  have hchosen : (ofRecognizers recognizers).chosen v = none := by
    rw [chosen_ofRecognizers, idle, Option.map_none]
  cases hremaining : v.remaining with
  | nil => simp only [endingAt, hremaining, reduceCtorEq, List.head?_nil]
  | cons next others =>
      simp only [endingAt, hremaining, hchosen, Ending.unexpected.injEq, and_true,
        List.head?_cons, Option.some.injEq]

/-- Where no recognizer starts there is no piece. -/
theorem Decomposes.eq_nil_of_idle (h : (ofRecognizers recognizers).Decomposes v pieces rest)
    (idle : recognizers.find? (·.starts v.remaining) = none)
    : pieces = [] ∧ rest = v := by
  cases h with
  | stuck _ => exact ⟨rfl, rfl⟩
  | cut cuts _ =>
      obtain ⟨recognizer, reads⟩ := cuts.exists_reads
      rw [reads.first] at idle
      cases idle

-----------------------------------------------------------------------------------------
-- Sessions of recognizers
-----------------------------------------------------------------------------------------

theorem session_of_decomposes {c : Cursor}
    (h : (ofRecognizers recognizers).Decomposes c.view pieces rest)
    : ((ofRecognizers recognizers).session c).1
      = ⟨Piece.lexemes c.origin pieces, (ofRecognizers recognizers).endingAt rest⟩ :=
  sessionOnto_of_decomposes (onlyLooks_ofRecognizers recognizers) h [] rfl

/-- A text that is one lexeme, read as a whole by the first recognizer that starts at it, gives the
one token of that lexeme.
-/
theorem tokenizeText_of_whole {recognizer : Recognizer} {name text : String} {kind : Kind}
    {value : Value} (first : recognizers.find? (·.starts text.toList) = some recognizer)
    (reading
      : recognizer.reading (Position.start name) text.toList
        = ⟨Rule.accept kind value, text.toList.length⟩)
    : (ofRecognizers recognizers).tokenizeText name text
      = .ok [⟨kind, value, some (Position.start name)⟩] := by
  have hremaining : (Cursor.ofText name text).view.remaining = text.toList := by simp
  rw [← hremaining] at first reading
  have cuts := (reads_of_reading first reading).cuts
  have stuck : (ofRecognizers recognizers).Stuck
      ((Cursor.ofText name text).view.skip (Cursor.ofText name text).view.remaining.length) := by
    intro piece w cuts
    have hsplit := cuts.split
    simp only [View.remaining_skip, List.drop_length, List.nil_eq, List.append_eq_nil_iff]
      at hsplit
    exact cuts.nonempty hsplit.1
  have hsession := session_of_decomposes (.cut cuts (.stuck stuck))
  rw [tokenizeText, sessionOf, hsession, Session.outcome_eq_ok_iff]
  refine ⟨?_, rfl⟩
  simp [endingAt]

/-- A session of recognizers that gives tokens has taken the whole text apart. -/
theorem exists_decomposes_of_ok {name text : String} {tokens : List Token}
    (success : (ofRecognizers recognizers).tokenizeText name text = .ok tokens)
    : ∃ pieces rest,
        (ofRecognizers recognizers).Decomposes (Cursor.ofText name text).view pieces rest
        ∧ rest.remaining = []
        ∧ tokens = Piece.tokens (Position.start name) pieces := by
  obtain ⟨pieces, rest, decomposes⟩ :=
    (ofRecognizers recognizers).exists_decomposes (Cursor.ofText name text).view
  have hsession := session_of_decomposes decomposes
  obtain ⟨hending, htokens⟩ := (Session.outcome_eq_ok_iff _ _).1 success
  rw [sessionOf, hsession] at hending htokens
  have hempty := decomposes.stuck_rest.endsAt.finished.1 hending
  exact ⟨pieces, rest, decomposes, hempty, htokens.trans (Piece.filterMap_lexemes _ _)⟩

end Lexical.Tokenizer
