import Lexical.Proofs.Dialect.Joining
import Lexical.Proofs.Tokenizer.Padding

/-! What may stand between the lexemes of a dialect. Where blanks separate lexemes, they can be
added at any boundary between two of them, and comments behind them, without an effect on the
tokens.
-/

namespace Lexical.Dialect

variable {dialect : Dialect} {compile : Pattern.Compiler}

/-- Without patterns a dialect calls for no recognizer of one. -/
theorem CallsFor.isPattern_eq_false {recognizer : Recognizer}
    (h : dialect.CallsFor compile recognizer) (unpatterned : dialect.patterns = [])
    : recognizer.isPattern = false := by
  cases h with
  | pattern listed compiled =>
      rw [unpatterned] at listed
      cases listed
  | symbol listed made =>
      obtain ⟨c, -, rfl⟩ | ⟨-, nonempty, rfl⟩ := symbolRecognizer_cases made
      · rfl
      · rfl
  | _ => rfl

/-- With the recognizers of such a dialect, blanks come first and then comments, and the others see
a blank as the end of what they take.
-/
theorem SeparatesByBlanks.admitPadding (separates : dialect.SeparatesByBlanks)
    {recognizers : List Recognizer} (h : dialect.recognizers compile = .ok recognizers)
    : Tokenizer.AdmitPadding recognizers dialect.lineComment? where
  blanks := exists_eq_blank_cons separates.skips h
  comments mark set := by
    refine ⟨separates.mark mark set, ?_⟩
    obtain ⟨comments, patterns, words, symbols, hcomments, -, -, -, rfl⟩ :=
      recognizers_eq_ok_iff.1 h
    have hblank : dialect.blankPart = [.blank] := if_pos separates.skips
    obtain ⟨unset, -⟩ | ⟨mark', nonempty, set', rfl⟩ := commentPart_cases hcomments
    · rw [unset] at set
      cases set
    · cases set.symm.trans set'
      simp only [hblank, List.cons_append]
      exact ⟨nonempty, _, rfl⟩
  heed recognizer member := (callsFor_of_recognizers h member).heedsBlanks separates
  unpatterned recognizer member :=
    (callsFor_of_recognizers h member).isPattern_eq_false separates.unpatterned

/-- Padding that keeps lexemes apart: a blank comes first, and then blanks and complete comments. -/
structure Separator (dialect : Dialect) (text : String) : Prop where
  startsBlank : text.toList.head?.any Text.isBlank
  padding : Padding dialect.lineComment? text.toList

/-- Blanks and comments between lexemes say nothing. With a dialect that separates lexemes by
blanks, a text that gives tokens can be parted at any boundary between its lexemes by blanks and
complete comments, a blank first: the tokens have the same kinds and values then, in the same
order.
-/
theorem separators_say_nothing (dialect : Dialect) {tokenizer : Tokenizer}
    (built : dialect.build compile = .ok tokenizer) (separates : dialect.SeparatesByBlanks)
    {name before after : String} {tokens : List Token} {done further : List Lexeme}
    (success : tokenizer.tokenizeText name (before ++ after) = .ok tokens)
    (boundary
      : (tokenizer.sessionOf name (before ++ after)).Boundary before.length done further)
    {separator : String} (apart : dialect.Separator separator)
    : ∃ tokens',
        tokenizer.tokenizeText name (before ++ separator ++ after) = .ok tokens'
        ∧ tokens'.map Token.content = tokens.map Token.content := by
  obtain ⟨recognizers, hrecognizers, rfl⟩ := exists_of_build built
  obtain ⟨c, others, shown⟩ : ∃ c others, separator.toList = c :: others := by
    apply List.exists_cons_of_ne_nil
    intro empty
    have hblank := apart.startsBlank
    rw [empty] at hblank
    cases hblank
  have isBlank : Text.isBlank c := by
    have hblank := apart.startsBlank
    rwa [shown] at hblank
  exact Tokenizer.tokenizeText_pad (separates.admitPadding hrecognizers) success boundary shown
    isBlank apart.padding

/-- A comment is put behind another one, which takes the blank before it and the comment itself. -/
theorem separator_behind_remark
    : remarks.SeparatesByBlanks
      ∧ remarks.Separator " # b\n"
      ∧ ∃ tokenizer,
          remarks.build = .ok tokenizer
          ∧ tokenizer.tokenizeText "notes" ("#a" ++ "\n;")
            = .ok [⟨⟨";"⟩, .rune ';', some ⟨"notes", 2, 1⟩⟩]
          ∧ (tokenizer.sessionOf "notes" ("#a" ++ "\n;")).Boundary 2
              [⟨(Recognizer.lineComment "#" (by decide)).name, ⟨"notes", 1, 1⟩, 2, none⟩]
              [⟨Recognizer.blank.name, ⟨"notes", 1, 3⟩, 1, none⟩,
                ⟨(Recognizer.rune ⟨";"⟩ ';').name, ⟨"notes", 2, 1⟩, 1,
                  some ⟨⟨";"⟩, .rune ';', some ⟨"notes", 2, 1⟩⟩⟩]
          ∧ ∃ tokens',
              tokenizer.tokenizeText "notes" ("#a" ++ " # b\n" ++ "\n;") = .ok tokens'
              ∧ tokens'.map Token.content = [(⟨";"⟩, .rune ';')] := by
  have separates : remarks.SeparatesByBlanks := ⟨rfl, rfl, by decide, by decide⟩
  have apart : remarks.Separator " # b\n" :=
    ⟨rfl, .blank rfl (.comment rfl (by decide : '\n' ∉ [' ', 'b']) .nil)⟩
  have hrecognizers : remarks.recognizers Pattern.compile = .ok remarkRecognizers := by cbv
  have built : remarks.build = .ok (.ofRecognizers remarkRecognizers) := by
    rw [build, hrecognizers]
    rfl
  have hsession
      : (Tokenizer.ofRecognizers remarkRecognizers).sessionOf "notes" ("#a" ++ "\n;")
        = ⟨[⟨(Recognizer.lineComment "#" (by decide)).name, ⟨"notes", 1, 1⟩, 2, none⟩,
              ⟨Recognizer.blank.name, ⟨"notes", 1, 3⟩, 1, none⟩,
              ⟨(Recognizer.rune ⟨";"⟩ ';').name, ⟨"notes", 2, 1⟩, 1,
                some ⟨⟨";"⟩, .rune ';', some ⟨"notes", 2, 1⟩⟩⟩],
            .finished⟩ := by
    cbv
  have success
      : (Tokenizer.ofRecognizers remarkRecognizers).tokenizeText "notes" ("#a" ++ "\n;")
        = .ok [⟨⟨";"⟩, .rune ';', some ⟨"notes", 2, 1⟩⟩] := by
    rw [Tokenizer.tokenizeText, hsession]
    rfl
  have boundary
      : ((Tokenizer.ofRecognizers remarkRecognizers).sessionOf "notes" ("#a" ++ "\n;")).Boundary 2
          [⟨(Recognizer.lineComment "#" (by decide)).name, ⟨"notes", 1, 1⟩, 2, none⟩]
          [⟨Recognizer.blank.name, ⟨"notes", 1, 3⟩, 1, none⟩,
            ⟨(Recognizer.rune ⟨";"⟩ ';').name, ⟨"notes", 2, 1⟩, 1,
              some ⟨⟨";"⟩, .rune ';', some ⟨"notes", 2, 1⟩⟩⟩] :=
    ⟨by rw [hsession]; rfl, rfl⟩
  exact ⟨separates, apart, _, built, success, boundary,
    separators_say_nothing remarks built separates success boundary apart⟩

end Lexical.Dialect
