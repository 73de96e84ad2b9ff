import Lexical.Proofs.Dialect.Build
import Lexical.Proofs.Tokenizer.Joining

/-! Dialects whose texts can be joined. Where blanks separate lexemes, and no fixed lexeme has one
in it, the tokens of two texts with a line feed between them are those of the one and of the other.
-/

namespace Lexical.Dialect

/-- The dialect skips blanks and has none in its fixed lexemes: neither in the mark of comments nor
in a symbol, and there are no patterns that could match one.
-/
structure SeparatesByBlanks (dialect : Dialect) : Prop where
  skips : dialect.skipBlanks
  unpatterned : dialect.patterns = []
  mark : ∀ mark ∈ dialect.lineComment?, mark.toList.any Text.isBlank = false
  symbols : ∀ symbol ∈ dialect.punctuation, symbol.toList.any Text.isBlank = false

theorem standard_separatesByBlanks : standard.SeparatesByBlanks where
  skips := rfl
  unpatterned := rfl
  mark := by decide
  symbols := by decide

theorem heedsBlanks_of_symbol {symbol : String} {recognizer : Recognizer}
    (made : symbolRecognizer symbol = .ok recognizer)
    (unbroken : symbol.toList.any Text.isBlank = false)
    : recognizer.HeedsBlanks := by
  obtain ⟨c, -, rfl⟩ | ⟨-, nonempty, rfl⟩ := symbolRecognizer_cases made
  · exact Recognizer.heedsBlanks_rune _ _
  · exact Recognizer.heedsBlanks_literal nonempty unbroken

/-- Whatever such a dialect calls for heeds blanks, part by part. -/
theorem CallsFor.heedsBlanks {dialect : Dialect} {compile : Pattern.Compiler}
    {recognizer : Recognizer} (h : dialect.CallsFor compile recognizer)
    (separates : dialect.SeparatesByBlanks)
    : recognizer.HeedsBlanks := by
  cases h with
  | blank skips => exact Recognizer.heedsBlanks_blank
  | lineComment set nonempty =>
      exact Recognizer.heedsBlanks_lineComment nonempty (separates.mark _ set)
  | pattern listed compiled =>
      rw [separates.unpatterned] at listed
      cases listed
  | numbers on => exact Recognizer.heedsBlanks_number _ _
  | quotedText listed => exact Recognizer.heedsBlanks_quotedText _ _
  | words on => exact Recognizer.heedsBlanks_word _ _
  | symbol listed made => exact heedsBlanks_of_symbol made (separates.symbols _ listed)

/-- Tokenizing respects that lines are joined. With a dialect that separates lexemes by blanks, as
the standard one does, a text that gives tokens can be put before another one, with a line feed
between them: the tokens of the first text come first, and then come those of the second one, or
its error, in the same columns and as many lines further down as there are line feeds before it. So
many lines further down is also where the second text is counted to, if lines and columns are
counted in 32 bits along both.
-/
theorem tokenizing_joins_lines
    : (standard.SeparatesByBlanks
        ∧ ∀ compile, ∃ tokenizer, standard.build compile = .ok tokenizer)
      ∧ ∀ (dialect : Dialect) (compile : Pattern.Compiler) (tokenizer : Tokenizer),
          dialect.build compile = .ok tokenizer
          → dialect.SeparatesByBlanks
          → ∀ name first second tokens,
              (Position.start name).CountsOver (first ++ "\n" ++ second).toList
              → tokenizer.tokenizeText name first = .ok tokens
              → let lowered := Position.lower (1 + first.toList.count '\n')
                tokenizer.tokenizeText name (first ++ "\n" ++ second)
                  = (Tokenizer.moveOutcome lowered (tokenizer.tokenizeText name second)).map
                      (tokens ++ ·)
                ∧ (Position.start name).advanceOver? (first ++ "\n").toList
                  = some (lowered (.start name))
                ∧ Position.MovesOver lowered (.start name) (lowered (.start name))
                    second.toList := by
  refine ⟨⟨standard_separatesByBlanks, exists_build_standard⟩, ?_⟩
  intro dialect compile tokenizer built separates name first second tokens counts success
  obtain ⟨recognizers, hrecognizers, rfl⟩ := exists_of_build built
  obtain ⟨others, rfl⟩ := exists_eq_blank_cons separates.skips hrecognizers
  refine ⟨?_, ?_⟩
  · apply Tokenizer.tokenizeText_join _ success
    intro other member
    have calls := callsFor_of_recognizers hrecognizers (List.mem_cons_of_mem _ member)
    exact (calls.heedsBlanks separates).heedsLineFeeds
  · rw [String.toList_append, String.toList_append] at counts
    rw [String.toList_append]
    exact Position.movesOver_behind_lineFeed counts

/-- A dialect of words, semicolons and comments. -/
def remarks : Dialect :=
  { bare with skipBlanks := true, lineComment? := some "#", words := true, punctuation := [";"] }

/-- What is in its tokenizer. -/
def remarkRecognizers : List Recognizer :=
  [.blank, .lineComment "#" (by decide), .words, .rune ⟨";"⟩ ';']

/-- A line that ends in a comment, below another one like it. -/
theorem tokenizing_joins_remarks
    : ∃ tokenizer,
        remarks.build = .ok tokenizer
        ∧ remarks.SeparatesByBlanks
        ∧ (Position.start "notes").CountsOver ("a; # b" ++ "\n" ++ "a; # b").toList
        ∧ tokenizer.tokenizeText "notes" "a; # b"
          = .ok [⟨.identifier, .text "a", some ⟨"notes", 1, 1⟩⟩,
              ⟨⟨";"⟩, .rune ';', some ⟨"notes", 1, 2⟩⟩]
        ∧ tokenizer.tokenizeText "notes" ("a; # b" ++ "\n" ++ "a; # b")
          = .ok [⟨.identifier, .text "a", some ⟨"notes", 1, 1⟩⟩,
              ⟨⟨";"⟩, .rune ';', some ⟨"notes", 1, 2⟩⟩,
              ⟨.identifier, .text "a", some ⟨"notes", 2, 1⟩⟩,
              ⟨⟨";"⟩, .rune ';', some ⟨"notes", 2, 2⟩⟩] := by
  have hrecognizers : remarks.recognizers Pattern.compile = .ok remarkRecognizers := by cbv
  have built : remarks.build = .ok (.ofRecognizers remarkRecognizers) := by
    rw [build, hrecognizers]
    rfl
  have separates : remarks.SeparatesByBlanks := ⟨rfl, rfl, by decide, by decide⟩
  have success : (Tokenizer.ofRecognizers remarkRecognizers).tokenizeText "notes" "a; # b"
      = .ok [⟨.identifier, .text "a", some ⟨"notes", 1, 1⟩⟩,
          ⟨⟨";"⟩, .rune ';', some ⟨"notes", 1, 2⟩⟩] := by
    cbv
  have counts : (Position.start "notes").CountsOver ("a; # b" ++ "\n" ++ "a; # b").toList := by
    decide
  obtain ⟨joined, -⟩ := tokenizing_joins_lines.2 remarks _ _ built separates "notes" "a; # b"
    "a; # b" _ counts success
  rw [success] at joined
  exact ⟨_, built, separates, counts, success, joined⟩

end Lexical.Dialect
