import Lexical.Proofs.Dialect.Build
import Lexical.Proofs.Tokenizer.Relabelling

/-! The keywords of a dialect. More of them, as they are added on the command line, give some words
kinds of their own; where lexemes start and end, what they hold and what is wrong with a text are
not affected.
-/

namespace Lexical.Dialect

variable {dialect : Dialect} {compile : Pattern.Compiler} {recognizers : List Recognizer}

theorem isWord_of_patternEntry {entry : PatternEntry} {recognizer : Recognizer}
    (compiled : entry.recognizer compile = .ok recognizer)
    : recognizer.isWord = false := by
  unfold PatternEntry.recognizer at compiled
  split at compiled
  · split at compiled
    all_goals
      obtain ⟨kind?, -, compiled⟩ := exists_of_bind_eq_ok compiled
      cases compiled
      rfl
  · split at compiled
    all_goals
      obtain ⟨kind?, -, compiled⟩ := exists_of_bind_eq_ok compiled
      cases compiled

theorem isWord_of_symbolRecognizer {symbol : String} {recognizer : Recognizer}
    (made : symbolRecognizer symbol = .ok recognizer)
    : recognizer.isWord = false := by
  obtain ⟨c, -, rfl⟩ | ⟨-, nonempty, rfl⟩ := symbolRecognizer_cases made
  · rfl
  · rfl

/-- Recognizers of words are called for with the keywords of the dialect, and no others are affected
by them.
-/
theorem CallsFor.knows {recognizer : Recognizer} (calls : dialect.CallsFor compile recognizer)
    : recognizer.Knows dialect.keywords := by
  cases calls with
  | words on => exact ⟨rfl, rfl⟩
  | pattern listed compiled =>
      exact Recognizer.knows_of_isWord_eq_false (isWord_of_patternEntry compiled)
  | symbol listed made =>
      exact Recognizer.knows_of_isWord_eq_false (isWord_of_symbolRecognizer made)
  | _ => trivial

/-- Without words a dialect calls for no recognizer of them. -/
theorem CallsFor.isWord_eq_false {recognizer : Recognizer}
    (calls : dialect.CallsFor compile recognizer) (off : dialect.words = false)
    : recognizer.isWord = false := by
  cases calls with
  | words on =>
      rw [off] at on
      cases on
  | pattern listed compiled => exact isWord_of_patternEntry compiled
  | symbol listed made => exact isWord_of_symbolRecognizer made
  | _ => rfl

/-- With further keywords, none of them empty, the dialect has the recognizers that have learned
them. All but that of words are those of the dialect without words, which there is nothing to learn
for.
-/
theorem recognizers_learn (h : dialect.recognizers compile = .ok recognizers) (on : dialect.words)
    {extra : List String} (nonempty : "" ∉ extra)
    : { dialect with keywords := dialect.keywords ++ extra }.recognizers compile
      = .ok (recognizers.map (·.learn extra)) := by
  obtain ⟨comments, patterns, words, symbols, hcomments, hpatterns, hwords, hsymbols, rfl⟩ :=
    recognizers_eq_ok_iff.1 h
  have hwordless : { dialect with words := false, keywords := [] }.recognizers compile = .ok _ :=
    recognizers_eq_ok_iff.2
      ⟨comments, patterns, [], symbols, hcomments, hpatterns, rfl, hsymbols, rfl⟩
  have hothers (recognizer : Recognizer)
      (member : recognizer ∈ dialect.blankPart ++ comments ++ patterns ++ dialect.numberPart
        ++ dialect.quotePart ++ [] ++ symbols)
      : recognizer.learn extra = recognizer :=
    Recognizer.learn_eq_self ((callsFor_of_recognizers hwordless member).isWord_eq_false rfl)
  rw [List.append_nil] at hothers
  have hleading := List.map_congr_left fun recognizer member =>
    hothers recognizer (List.mem_append_left symbols member)
  have hlast := List.map_congr_left fun recognizer member =>
    hothers recognizer (List.mem_append_right _ member)
  rw [List.map_id'] at hleading hlast
  rw [wordPart, if_pos on] at hwords
  split at hwords
  · cases hwords
  · next known =>
      cases hwords
      refine recognizers_eq_ok_iff.2
        ⟨comments, patterns,
          [.word .identifier
            ((dialect.keywords ++ extra).map fun keyword => (keyword, ⟨keyword⟩))],
          symbols, hcomments, hpatterns, ?_, hsymbols, ?_⟩
      · rw [wordPart, if_pos on, if_neg]
        simp only [List.mem_append, known, nonempty, or_self, not_false_eq_true]
      · rw [List.map_append, List.map_append, hleading, hlast, List.map_append]
        rfl

/-- Further keywords only label words. To a dialect with words any list of words, none of them
empty, can be added as keywords: it has a tokenizer again, and for every text both fail alike, or
the same occurrences become tokens of both, with the same values and origins. The kinds are the
same too, but for the words that are in the list and were no keywords before, which were
identifiers and are of their own kinds now. A word is always the longest run of word characters
where it stands, so that no keyword is ever found at the start of a longer word.
-/
theorem keywords_label_words (dialect : Dialect) {tokenizer : Tokenizer}
    (built : dialect.build compile = .ok tokenizer) (on : dialect.words) (extra : List String)
    (nonempty : "" ∉ extra)
    : ∃ recognizers recognizers' tokenizer',
        dialect.recognizers compile = .ok recognizers
        ∧ { dialect with keywords := dialect.keywords ++ extra }.recognizers compile
          = .ok recognizers'
        ∧ { dialect with keywords := dialect.keywords ++ extra }.build compile = .ok tokenizer'
        ∧ ∀ name text,
            (∃ failure,
              tokenizer.tokenizeText name text = .error failure
              ∧ tokenizer'.tokenizeText name text = .error failure)
            ∨ ∃ occurrences : List Occurrence,
                tokenizer.tokenizeText name text = .ok (occurrences.map Occurrence.token)
                ∧ tokenizer'.tokenizeText name text
                  = .ok ((occurrences.map (Occurrence.learn dialect.keywords extra)).map
                      Occurrence.token)
                ∧ ∀ occurrence ∈ occurrences,
                    occurrence.In recognizers name text.toList
                    ∧ (occurrence.learn dialect.keywords extra).In recognizers' name text.toList
                    ∧ (occurrence.recognizer.isWord
                      → occurrence.lexeme
                          = (text.toList.drop occurrence.offset).takeWhile Recognizer.isWordPart
                        ∧ occurrence.token.kind
                          = Recognizer.wordKind dialect.keywords
                              (String.ofList occurrence.lexeme)
                        ∧ (occurrence.learn dialect.keywords extra).token.kind
                          = Recognizer.wordKind (dialect.keywords ++ extra)
                              (String.ofList occurrence.lexeme)) := by
  obtain ⟨recognizers, hrecognizers, rfl⟩ := exists_of_build built
  have hlearned := recognizers_learn hrecognizers on nonempty
  have knows : ∀ recognizer ∈ recognizers, recognizer.Knows dialect.keywords :=
    fun recognizer member => (callsFor_of_recognizers hrecognizers member).knows
  refine ⟨recognizers, _, _, hrecognizers, hlearned, by rw [build, hlearned], ?_⟩
  intro name text
  rcases Tokenizer.tokenizeText_learn knows extra name text with
    failure | ⟨occurrences, htokens, htokens', hin⟩
  · exact .inl failure
  · refine .inr ⟨occurrences, htokens, htokens', ?_⟩
    intro occurrence member
    obtain ⟨before, after⟩ := hin occurrence member
    refine ⟨before, after, ?_⟩
    intro isWord
    obtain ⟨hlexeme, hkind⟩ := before.word (knows _ (List.mem_of_find?_eq_some before.first)) isWord
    obtain ⟨-, hkind'⟩ := after.word
      (callsFor_of_recognizers hlearned (List.mem_of_find?_eq_some after.first)).knows
      (Recognizer.isWord_learn.trans isWord)
    exact ⟨hlexeme, hkind, hkind'⟩

/-- A dialect of words with one keyword. -/
def commands : Dialect :=
  { bare with skipBlanks := true, words := true, keywords := ["let"] }

/-- What is in its tokenizer, and in that of the dialect with another keyword. -/
def commandRecognizers (others : List (String × Kind)) : List Recognizer :=
  [.blank, .word .identifier (("let", ⟨"let"⟩) :: others)]

/-- With another keyword a word becomes one, but not the longer word that it begins. -/
theorem keyword_added_to_commands
    : "" ∉ ["in"]
      ∧ ∃ tokenizer tokenizer',
          commands.build = .ok tokenizer
          ∧ { commands with keywords := commands.keywords ++ ["in"] }.build = .ok tokenizer'
          ∧ tokenizer.tokenizeText "notes" "in inn"
            = .ok [⟨.identifier, .text "in", some ⟨"notes", 1, 1⟩⟩,
                ⟨.identifier, .text "inn", some ⟨"notes", 1, 4⟩⟩]
          ∧ tokenizer'.tokenizeText "notes" "in inn"
            = .ok [⟨⟨"in"⟩, .text "in", some ⟨"notes", 1, 1⟩⟩,
                ⟨.identifier, .text "inn", some ⟨"notes", 1, 4⟩⟩]
          ∧ ∃ occurrences : List Occurrence,
              tokenizer.tokenizeText "notes" "in inn" = .ok (occurrences.map Occurrence.token)
              ∧ tokenizer'.tokenizeText "notes" "in inn"
                = .ok ((occurrences.map (Occurrence.learn ["let"] ["in"])).map
                    Occurrence.token) := by
  have nonempty : "" ∉ ["in"] := by decide
  have hrecognizers : commands.recognizers Pattern.compile
      = .ok (commandRecognizers []) := by cbv
  have built : commands.build = .ok (.ofRecognizers (commandRecognizers [])) := by
    rw [build, hrecognizers]
    rfl
  have built' : { commands with keywords := commands.keywords ++ ["in"] }.build
      = .ok (.ofRecognizers (commandRecognizers [("in", ⟨"in"⟩)])) := by
    rw [build, recognizers_learn hrecognizers rfl nonempty]
    rfl
  have success
      : (Tokenizer.ofRecognizers (commandRecognizers [])).tokenizeText "notes" "in inn"
        = .ok [⟨.identifier, .text "in", some ⟨"notes", 1, 1⟩⟩,
            ⟨.identifier, .text "inn", some ⟨"notes", 1, 4⟩⟩] := by
    cbv
  have success'
      : (Tokenizer.ofRecognizers (commandRecognizers [("in", ⟨"in"⟩)])).tokenizeText "notes"
          "in inn"
        = .ok [⟨⟨"in"⟩, .text "in", some ⟨"notes", 1, 1⟩⟩,
            ⟨.identifier, .text "inn", some ⟨"notes", 1, 4⟩⟩] := by
    clear success
    cbv
  obtain ⟨_, _, _, -, -, same, outcome⟩ :=
    keywords_label_words commands built rfl ["in"] nonempty
  rw [built'] at same
  obtain rfl := Except.ok.inj same
  refine ⟨nonempty, _, _, built, built', success, success', ?_⟩
  rcases outcome "notes" "in inn" with
    ⟨failure, failed, -⟩ | ⟨occurrences, htokens, htokens', -⟩
  · rw [success] at failed
    cases failed
  · exact ⟨occurrences, htokens, htokens'⟩

end Lexical.Dialect
