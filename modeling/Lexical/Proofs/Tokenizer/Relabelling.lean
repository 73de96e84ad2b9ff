import Lexical.Proofs.Recognizer.Keyword
import Lexical.Proofs.Tokenizer.Occurrence

/-! Sessions with further keywords. The pieces of a text are the same, and so is what a session ends
with; only the words that have become keywords are of other kinds.
-/

namespace Lexical

namespace Occurrence

/-- The occurrence where further words are keywords. -/
def learn (keywords extra : List String) (occurrence : Occurrence) : Occurrence :=
  { occurrence with
    recognizer := occurrence.recognizer.learn extra
    token := occurrence.recognizer.relabel keywords extra occurrence.lexeme occurrence.token }

/-- A word that occurs is the longest run of word characters where it stands, and of the kind that
the keywords say.
-/
theorem In.word {occurrence : Occurrence} {recognizers : List Recognizer} {name : String}
    {text : List Char} (h : occurrence.In recognizers name text) {keywords : List String}
    (knows : occurrence.recognizer.Knows keywords) (isWord : occurrence.recognizer.isWord)
    : occurrence.lexeme = (text.drop occurrence.offset).takeWhile Recognizer.isWordPart
      ∧ occurrence.token.kind
        = Recognizer.wordKind keywords (String.ofList occurrence.lexeme) := by
  obtain ⟨recognizer, offset, lexeme, token⟩ := occurrence
  have made := h.made (Position.start name)
  have inside := h.inside
  dsimp only at knows isWord made inside ⊢
  cases recognizer with
  | word kind table =>
      obtain ⟨rfl, rfl⟩ := knows
      rw [Recognizer.reading_word] at made
      obtain ⟨answer, length⟩ := Reading.mk.inj made
      have hlexeme : lexeme = (text.drop offset).takeWhile Recognizer.isWordPart := by
        rw [List.prefix_iff_eq_take.1 inside, ← length]
        exact (List.prefix_iff_eq_take.1 (List.takeWhile_prefix _)).symm
      rw [← hlexeme] at answer
      split at answer
      · cases answer
      · simp only [Rule.accept, Except.ok.injEq, Option.some.injEq, Token.mk.injEq] at answer
        exact ⟨hlexeme, answer.1.symm⟩
  | _ => cases isWord

end Occurrence

namespace Tokenizer

variable {recognizers : List Recognizer} {keywords : List String} {v w rest : View}
  {piece : Piece} {pieces : List Piece}

theorem find?_learn (recognizers : List Recognizer) (extra : List String) (text : List Char)
    : (recognizers.map (·.learn extra)).find? (·.starts text)
      = (recognizers.find? (·.starts text)).map (·.learn extra) := by
  rw [List.find?_map]
  congr 2
  funext recognizer
  exact recognizer.starts_learn text

/-- What a recognizer reads it reads with further keywords too, up to the label of its token. -/
theorem Reads.learn (knows : ∀ recognizer ∈ recognizers, recognizer.Knows keywords)
    {recognizer : Recognizer} (h : Reads recognizers v piece w recognizer) (extra : List String)
    : Reads (recognizers.map (·.learn extra)) v
        ⟨(recognizer.learn extra).toRule, piece.text,
          piece.token?.map (recognizer.relabel keywords extra piece.text)⟩
        w (recognizer.learn extra) := by
  have hreading := Recognizer.reading_learn
    (knows recognizer (List.mem_of_find?_eq_some h.first)) extra v.origin v.remaining
  refine ⟨?_, ?_, rfl, ?_, ?_⟩
  · rw [find?_learn, h.first, Option.map_some]
  · rw [hreading, h.answer, ← h.text]
    rfl
  · rw [hreading, h.text]
  · rw [hreading, h.after]

/-- With further keywords nothing is cut off where nothing was before. -/
theorem Stuck.learn (knows : ∀ recognizer ∈ recognizers, recognizer.Knows keywords)
    (stuck : (ofRecognizers recognizers).Stuck v) (extra : List String)
    : (ofRecognizers (recognizers.map (·.learn extra))).Stuck v := by
  intro piece w cuts
  obtain ⟨learned, reads⟩ := cuts.exists_reads
  have hfirst := reads.first
  rw [find?_learn, Option.map_eq_some_iff] at hfirst
  obtain ⟨recognizer, first, rfl⟩ := hfirst
  have answer := reads.answer
  rw [Recognizer.reading_learn (knows recognizer (List.mem_of_find?_eq_some first))] at answer
  cases hanswer : (recognizer.reading v.origin v.remaining).answer with
  | error failure =>
      rw [hanswer] at answer
      cases answer
  | ok token? => exact stuck _ _ (reads_of_answer first hanswer).cuts

/-- With further keywords a session ends in the same way at every view. -/
theorem endingAt_learn (knows : ∀ recognizer ∈ recognizers, recognizer.Knows keywords)
    (extra : List String) (v : View)
    : (ofRecognizers (recognizers.map (·.learn extra))).endingAt v
      = (ofRecognizers recognizers).endingAt v := by
  rw [endingAt, endingAt, chosen_ofRecognizers, chosen_ofRecognizers, find?_learn]
  cases hfirst : recognizers.find? (·.starts v.remaining) with
  | none => rfl
  | some recognizer =>
      have hreading := Recognizer.reading_learn
        (knows recognizer (List.mem_of_find?_eq_some hfirst)) extra v.origin v.remaining
      cases hremaining : v.remaining with
      | nil => rfl
      | cons character others =>
          have hname : (recognizer.learn extra).toRule.name = recognizer.toRule.name :=
            Recognizer.name_learn
          simp only [Option.map_some, Recognizer.answerAt_toRule, hreading, hname]
          rcases (recognizer.reading v.origin v.remaining).answer with (error | breach) | token?
          · rfl
          · rfl
          · rfl

/-- A decomposition is one with further keywords too, up to the labels: it ends at the same view,
and its tokens are those of the same occurrences. By induction over the pieces, with the text
before them that was already taken apart.
-/
theorem Decomposes.learn (knows : ∀ recognizer ∈ recognizers, recognizer.Knows keywords)
    (extra : List String) {name : String} {before : List Char}
    (h : (ofRecognizers recognizers).Decomposes v pieces rest)
    (place : v.origin = (Position.start name).advanceOver before)
    : ∃ (pieces' : List Piece) (occurrences : List Occurrence),
        (ofRecognizers (recognizers.map (·.learn extra))).Decomposes v pieces' rest
        ∧ Piece.tokens v.origin pieces = occurrences.map Occurrence.token
        ∧ Piece.tokens v.origin pieces'
          = (occurrences.map (Occurrence.learn keywords extra)).map Occurrence.token
        ∧ ∀ occurrence ∈ occurrences,
            occurrence.In recognizers name (before ++ v.remaining)
            ∧ (occurrence.learn keywords extra).In (recognizers.map (·.learn extra)) name
                (before ++ v.remaining) := by
  induction h generalizing before with
  | stuck stuck =>
      refine ⟨[], [], .stuck (stuck.learn knows extra), rfl, rfl, ?_⟩
      intro occurrence member
      cases member
  | @cut v piece w others rest cuts _ ih =>
      obtain ⟨recognizer, reads⟩ := cuts.exists_reads
      have learned := reads.learn knows extra
      have hnext : w.origin = (Position.start name).advanceOver (before ++ piece.text) := by
        rw [cuts.origin, place, Position.advanceOver_append]
      have hsame : before ++ piece.text ++ w.remaining = before ++ v.remaining := by
        rw [List.append_assoc, cuts.split]
      obtain ⟨others', occurrences, further, htokens, htokens', hin⟩ := ih hnext
      rw [hsame] at hin
      rw [cuts.origin] at htokens htokens'
      cases found : piece.token? with
      | none =>
          rw [found] at learned
          refine ⟨_, occurrences, .cut learned.cuts further, ?_, ?_, hin⟩
          · rw [Piece.tokens, Piece.placed_eq, found, htokens]
            rfl
          · rw [Piece.tokens, htokens']
            rfl
      | some token =>
          rw [found] at learned
          refine ⟨_, ⟨recognizer, before.length, piece.text, token.orAt v.origin⟩ :: occurrences,
            .cut learned.cuts further, ?_, ?_, ?_⟩
          · rw [Piece.tokens, Piece.placed_eq, found, htokens]
            rfl
          · rw [Piece.tokens, Piece.placed_eq, htokens', List.map_cons, List.map_cons,
              Occurrence.learn, Recognizer.relabel_orAt]
            rfl
          · intro occurrence member
            rcases List.mem_cons.1 member with rfl | member
            · refine ⟨reads.occurs found place, ?_⟩
              have hlearned := learned.occurs rfl place
              rw [← Recognizer.relabel_orAt] at hlearned
              exact hlearned
            · exact hin occurrence member

/-- The tokens of a text are those of the same occurrences with further keywords, and where there
are no tokens the failure is the same.
-/
theorem tokenizeText_learn (knows : ∀ recognizer ∈ recognizers, recognizer.Knows keywords)
    (extra : List String) (name text : String)
    : (∃ failure,
        (ofRecognizers recognizers).tokenizeText name text = .error failure
        ∧ (ofRecognizers (recognizers.map (·.learn extra))).tokenizeText name text
          = .error failure)
      ∨ ∃ occurrences : List Occurrence,
          (ofRecognizers recognizers).tokenizeText name text
            = .ok (occurrences.map Occurrence.token)
          ∧ (ofRecognizers (recognizers.map (·.learn extra))).tokenizeText name text
            = .ok ((occurrences.map (Occurrence.learn keywords extra)).map Occurrence.token)
          ∧ ∀ occurrence ∈ occurrences,
              occurrence.In recognizers name text.toList
              ∧ (occurrence.learn keywords extra).In (recognizers.map (·.learn extra)) name
                  text.toList := by
  obtain ⟨pieces, rest, decomposes⟩ :=
    (ofRecognizers recognizers).exists_decomposes (Cursor.ofText name text).view
  have hplace : (Cursor.ofText name text).view.origin = (Position.start name).advanceOver [] := rfl
  obtain ⟨pieces', occurrences, decomposes', htokens, htokens', hin⟩ :=
    decomposes.learn knows extra hplace
  rw [List.nil_append, Cursor.remaining_view, Cursor.remaining_ofText] at hin
  rw [tokenizeText, tokenizeText, sessionOf, sessionOf, session_of_decomposes decomposes,
    session_of_decomposes decomposes', endingAt_learn knows]
  cases (ofRecognizers recognizers).endingAt rest with
  | finished =>
      refine .inr ⟨occurrences, ?_, ?_, hin⟩
      · rw [← htokens, ← Piece.filterMap_lexemes]
        rfl
      · rw [← htokens', ← Piece.filterMap_lexemes]
        rfl
  | unexpected character place => exact .inl ⟨_, rfl, rfl⟩
  | failed rule error => exact .inl ⟨_, rfl, rfl⟩
  | breached breach => exact .inl ⟨_, rfl, rfl⟩

end Tokenizer

end Lexical
