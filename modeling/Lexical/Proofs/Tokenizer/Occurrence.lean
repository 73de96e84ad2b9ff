import Lexical.Proofs.Position
import Lexical.Proofs.Tokenizer.Cut
import Mathlib

/-! Where the tokens of a text come from. Each token is made of a piece of the text, and its origin
is the place of the first character of that piece. The pieces follow one another, and so do the
origins.
-/

namespace Lexical

/-- A piece of a text that became a token: the recognizer that took it, how many characters of the
text come before it, and the characters that it has.
-/
structure Occurrence where
  recognizer : Recognizer
  offset : Nat
  lexeme : List Char
  token : Token

namespace Occurrence

/-- The occurrence is in the text of the given name: its lexeme stands at its offset, the first
recognizer that starts there takes it and makes the token of it, and the origin of the token is the
place of its first character. What a verbatim recognizer made of it has the lexeme as its value.
-/
structure In (occurrence : Occurrence) (recognizers : List Recognizer) (name : String)
    (text : List Char)
    : Prop where
  nonempty : occurrence.lexeme ≠ []
  inside : occurrence.lexeme <+: text.drop occurrence.offset
  first
    : recognizers.find? (·.starts (text.drop occurrence.offset)) = some occurrence.recognizer
  origin
    : occurrence.token.origin?
      = some ((Position.start name).advanceOver (text.take occurrence.offset))
  made
    : ∀ place,
        occurrence.recognizer.reading place (text.drop occurrence.offset)
        = ⟨.ok (some { occurrence.token with origin? := none }), occurrence.lexeme.length⟩
  verbatim
    : occurrence.recognizer.isVerbatim
      → occurrence.token.value.display.toList = occurrence.lexeme

/-- The first lexeme ends before the second one starts, or just there. -/
def Apart (occurrence other : Occurrence) : Prop :=
  occurrence.offset + occurrence.lexeme.length ≤ other.offset

/-- Of two lexemes that are apart, the second has the later place. -/
theorem Apart.before {occurrence other : Occurrence} {recognizers : List Recognizer}
    {name : String} {text : List Char} (apart : occurrence.Apart other)
    (h : occurrence.In recognizers name text) (k : other.In recognizers name text)
    {place later : Position} (hplace : occurrence.token.origin? = some place)
    (hlater : other.token.origin? = some later)
    : place.Before later := by
  have hpos := List.length_pos_iff.2 h.nonempty
  have hless : occurrence.offset < other.offset := by
    unfold Apart at apart
    omega
  have hinside : other.offset ≤ text.length := by
    have hlength := k.inside.length_le
    have hpos := List.length_pos_iff.2 k.nonempty
    rw [List.length_drop] at hlength
    omega
  rw [h.origin] at hplace
  rw [k.origin] at hlater
  cases hplace
  cases hlater
  exact Position.before_of_lt _ hless hinside

end Occurrence

namespace Tokenizer

variable {recognizers : List Recognizer} {v w rest : View} {piece : Piece}
  {pieces : List Piece} {name : String}

/-- A piece that a recognizer reads is an occurrence of its token behind the text before it. -/
theorem Reads.occurs {recognizer : Recognizer} {before : List Char} {token : Token}
    (reads : Reads recognizers v piece w recognizer) (found : piece.token? = some token)
    (place : v.origin = (Position.start name).advanceOver before)
    : Occurrence.In ⟨recognizer, before.length, piece.text, token.orAt v.origin⟩ recognizers
        name (before ++ v.remaining) := by
  have hunplaced := reads.cuts.origin?_eq_none found
  have answer := reads.answer
  rw [found] at answer
  refine ⟨reads.cuts.nonempty, ?_, ?_, ?_, ?_, ?_⟩
  · rw [List.drop_left, reads.cuts.split]
    exact List.prefix_append _ _
  · rw [List.drop_left]
    exact reads.first
  · simp only [Token.orAt, hunplaced, Option.none_or, List.take_left, place]
  · intro other
    rw [List.drop_left, Recognizer.reading_eq_of_starts reads.starts other v.origin,
      reads.length_text, ← hunplaced]
    exact congrArg (Reading.mk · _) answer
  · intro verbatim
    have hspelled := Recognizer.display_value_of_reading verbatim answer
    exact hspelled.trans reads.text.symm

/-- A piece with a token is an occurrence of that token behind the text before it. -/
theorem Cuts.occurs {before : List Char} {token : Token}
    (cuts : (ofRecognizers recognizers).Cuts v piece w) (found : piece.token? = some token)
    (place : v.origin = (Position.start name).advanceOver before)
    : ∃ recognizer,
        Occurrence.In ⟨recognizer, before.length, piece.text, token.orAt v.origin⟩ recognizers
          name (before ++ v.remaining) := by
  obtain ⟨recognizer, reads⟩ := cuts.exists_reads
  exact ⟨recognizer, reads.occurs found place⟩

/-- The tokens of a decomposition occur in the text one behind the other, by induction over the
pieces, with the text before them that was already taken apart.
-/
theorem Decomposes.exists_occurrences {before : List Char}
    (h : (ofRecognizers recognizers).Decomposes v pieces rest)
    (place : v.origin = (Position.start name).advanceOver before)
    : ∃ occurrences : List Occurrence,
        Piece.tokens v.origin pieces = occurrences.map Occurrence.token
        ∧ (∀ occurrence ∈ occurrences,
            occurrence.In recognizers name (before ++ v.remaining)
            ∧ before.length ≤ occurrence.offset)
        ∧ occurrences.Pairwise Occurrence.Apart := by
  induction h generalizing before with
  | stuck _ =>
      refine ⟨[], rfl, ?_, List.Pairwise.nil⟩
      intro occurrence member
      cases member
  | @cut v piece w others rest cuts _ ih =>
      have hnext : w.origin = (Position.start name).advanceOver (before ++ piece.text) := by
        rw [cuts.origin, place, Position.advanceOver_append]
      have hsame : before ++ piece.text ++ w.remaining = before ++ v.remaining := by
        rw [List.append_assoc, cuts.split]
      obtain ⟨occurrences, htokens, hin, hpairwise⟩ := ih hnext
      rw [hsame] at hin
      have hbehind : ∀ occurrence ∈ occurrences,
          before.length + piece.text.length ≤ occurrence.offset := by
        intro occurrence member
        have hoffset := (hin occurrence member).2
        rwa [List.length_append] at hoffset
      cases found : piece.token? with
      | none =>
          refine ⟨occurrences, ?_, ?_, hpairwise⟩
          · simp only [Piece.tokens, Piece.placed_eq, found, Option.map_none, Option.toList_none,
              List.nil_append, ← cuts.origin, htokens]
          · intro occurrence member
            have hoffset := hbehind occurrence member
            exact ⟨(hin occurrence member).1, by omega⟩
      | some token =>
          obtain ⟨recognizer, occurs⟩ := cuts.occurs found place
          refine ⟨⟨recognizer, before.length, piece.text, token.orAt v.origin⟩ :: occurrences,
            ?_, ?_, List.pairwise_cons.2 ⟨hbehind, hpairwise⟩⟩
          · simp only [Piece.tokens, Piece.placed_eq, found, Option.map_some, Option.toList_some,
              List.singleton_append, ← cuts.origin, htokens, List.map_cons]
          · intro occurrence member
            rcases List.mem_cons.1 member with rfl | member
            · exact ⟨occurs, Nat.le_refl _⟩
            · have hoffset := hbehind occurrence member
              exact ⟨(hin occurrence member).1, by omega⟩

/-- The tokens of a text occur in it: each is made of a piece of the text that the first recognizer
able to start there took, its origin is the place of the first character of that piece, and words,
fixed texts and matches have the piece as their value. No two pieces overlap, and the origins
ascend.
-/
theorem tokens_occur_in_text (recognizers : List Recognizer) (name text : String)
    {tokens : List Token}
    (success : (ofRecognizers recognizers).tokenizeText name text = .ok tokens)
    : (tokens.filterMap Token.origin?).Pairwise Position.Before
      ∧ ∃ occurrences : List Occurrence,
          tokens = occurrences.map Occurrence.token
          ∧ (∀ occurrence ∈ occurrences, occurrence.In recognizers name text.toList)
          ∧ occurrences.Pairwise Occurrence.Apart := by
  obtain ⟨pieces, rest, decomposes, -, htokens⟩ := exists_decomposes_of_ok success
  have hplace : (Cursor.ofText name text).view.origin
      = (Position.start name).advanceOver [] := rfl
  obtain ⟨occurrences, hoccurrences, hin, hpairwise⟩ := decomposes.exists_occurrences hplace
  rw [List.nil_append, Cursor.remaining_view, Cursor.remaining_ofText] at hin
  have hin : ∀ occurrence ∈ occurrences, occurrence.In recognizers name text.toList :=
    fun occurrence member => (hin occurrence member).1
  have htokens : tokens = occurrences.map Occurrence.token := htokens.trans hoccurrences
  refine ⟨?_, occurrences, htokens, hin, hpairwise⟩
  rw [htokens, List.pairwise_filterMap, List.pairwise_map]
  apply hpairwise.imp_of_mem
  intro occurrence other member member' apart place hplace later hlater
  exact apart.before (hin _ member) (hin _ member') hplace hlater

/-- The words and the sign of two lines, the second of them indented. -/
theorem tokens_occur_in_two_lines
    : (ofRecognizers [.blank, .words, .rune ⟨";"⟩ ';']).tokenizeText "notes" "a\n b;"
        = .ok [⟨.identifier, .text "a", some ⟨"notes", 1, 1⟩⟩,
            ⟨.identifier, .text "b", some ⟨"notes", 2, 2⟩⟩,
            ⟨⟨";"⟩, .rune ';', some ⟨"notes", 2, 3⟩⟩]
      ∧ [(⟨"notes", 1, 1⟩ : Position), ⟨"notes", 2, 2⟩, ⟨"notes", 2, 3⟩].Pairwise
          Position.Before := by
  have success : (ofRecognizers [.blank, .words, .rune ⟨";"⟩ ';']).tokenizeText "notes" "a\n b;"
      = .ok [⟨.identifier, .text "a", some ⟨"notes", 1, 1⟩⟩,
          ⟨.identifier, .text "b", some ⟨"notes", 2, 2⟩⟩,
          ⟨⟨";"⟩, .rune ';', some ⟨"notes", 2, 3⟩⟩] := by
    cbv
  obtain ⟨ascending, -⟩ := tokens_occur_in_text _ "notes" "a\n b;" success
  exact ⟨success, ascending⟩

end Tokenizer

end Lexical
