import Lexical.Cli.Run
import Lexical.Proofs.Dialect.Build
import Lexical.Proofs.Recognizer.Keyword
import Lexical.Proofs.Recognizer.Separation
import Lexical.Proofs.Text.Unbroken
import Lexical.Proofs.Tokenizer.Occurrence

/-! The listing of tokens: one record for each, in their order. A record takes up a single line
unless the kind of its token has a line feed in its name or its value is the character of one; texts
are quoted, so that they can hold what they like. Where a dialect has no such names, all its tokens
are listed on one line each.
-/

namespace Lexical

namespace Cli

-----------------------------------------------------------------------------------------
-- Records
-----------------------------------------------------------------------------------------

/-- What a record shows of a value: nothing of an absent one, a text between quotes, and numbers and
characters as they are.
-/
inductive ShowsValue : Value → String → Prop
  | absent : ShowsValue .absent ""
  | int (number : Int64) : ShowsValue (.int number) ("  " ++ number.toInt.repr)
  | float (number : Float) : ShowsValue (.float number) ("  " ++ Decimal.fullText number)
  | text (content : String) : ShowsValue (.text content) ("  " ++ Text.quoted content)
  | rune (character : Char) : ShowsValue (.rune character) ("  " ++ String.singleton character)

end Cli

-----------------------------------------------------------------------------------------
-- Lines
-----------------------------------------------------------------------------------------

/-- The token has no line feed in the name of its kind, and its value is not the character of one.
-/
structure Token.IsOneLine (token : Token) : Prop where
  kind : '\n' ∉ token.kind.name.toList
  value : token.value ≠ .rune '\n'

/-- A value that is no character needs no further look. -/
theorem Token.isOneLine_of_rune?_eq_none {token : Token} (kind : '\n' ∉ token.kind.name.toList)
    (other : token.value.rune? = none)
    : token.IsOneLine := by
  refine ⟨kind, ?_⟩
  intro same
  rw [same] at other
  cases other

namespace Cli

/-- Of all values only the line feed itself is shown with a line feed. -/
theorem ShowsValue.unbroken {value : Value} {shown : String} (shows : ShowsValue value shown)
    (other : value ≠ .rune '\n')
    : '\n' ∉ shown.toList := by
  have hspaced {text : String} (unbroken : '\n' ∉ text.toList) : '\n' ∉ ("  " ++ text).toList := by
    rw [String.toList_append, List.mem_append, not_or]
    exact ⟨by decide, unbroken⟩
  cases shows with
  | absent => decide
  | int number => exact hspaced (Text.unbroken_intRepr _)
  | float number => exact hspaced (Decimal.unbroken_fullText number)
  | text content => exact hspaced (Text.unbroken_quoted content)
  | rune character =>
      apply hspaced
      rw [String.toList_singleton, List.mem_singleton]
      rintro rfl
      exact other rfl

end Cli

-----------------------------------------------------------------------------------------
-- Tokens on one line
-----------------------------------------------------------------------------------------

/-- A number that is written well is an integer or a float. -/
theorem Recognizer.Written.value_cases {number : Written} {value : Value}
    (h : number.value = .ok value)
    : (∃ whole, value = .int whole) ∨ ∃ fraction, value = .float fraction := by
  unfold Written.value at h
  split at h
  · cases h
  · split at h
    · split at h
      · next fraction _ =>
          cases h
          exact .inr ⟨fraction, rfl⟩
      · cases h
    · split at h
      · next whole _ =>
          cases h
          exact .inl ⟨whole, rfl⟩
      · cases h

namespace Dialect

/-- The recognizer of a pattern has the kind that the entry names, or none. -/
theorem exists_of_patternEntry {entry : PatternEntry} {compile : Pattern.Compiler}
    {recognizer : Recognizer} (compiled : entry.recognizer compile = .ok recognizer)
    : ∃ kind? expression window,
        recognizer = .pattern kind? expression window
        ∧ ∀ kind, kind? = some kind → entry.kind? = some kind.name := by
  unfold PatternEntry.recognizer at compiled
  split at compiled
  · next pattern _ =>
      split at compiled
      · cases compiled
        refine ⟨none, pattern, _, rfl, ?_⟩
        intro kind set
        cases set
      · next kind _ set =>
          cases compiled
          refine ⟨some ⟨kind⟩, pattern, _, rfl, ?_⟩
          rintro _ ⟨⟩
          exact set
      · cases compiled
  · split at compiled <;> cases compiled

/-- No symbol of the dialect and no kind of its patterns has a line feed in it. -/
structure NamesUnbroken (dialect : Dialect) : Prop where
  symbols : ∀ symbol ∈ dialect.punctuation, '\n' ∉ symbol.toList
  kinds
    : ∀ entry ∈ dialect.patterns, ∀ kind, entry.kind? = some kind → '\n' ∉ kind.toList

variable {dialect : Dialect} {compile : Pattern.Compiler} {recognizer : Recognizer}
  {place : Position} {text : List Char} {token : Token}

/-- What the recognizers of such a dialect make of a text is on one line, whatever the keywords are:
a keyword is the kind of a word that is the keyword itself, and words end before a line feed.
-/
theorem CallsFor.isOneLine (calls : dialect.CallsFor compile recognizer)
    (unbroken : dialect.NamesUnbroken)
    (answered : (recognizer.reading place text).answer = .ok (some token))
    : token.IsOneLine := by
  have hinteger : '\n' ∉ Kind.integer.name.toList := by decide
  have hfloat : '\n' ∉ Kind.float.name.toList := by decide
  have hstring : '\n' ∉ Kind.string.name.toList := by decide
  have hidentifier : '\n' ∉ Kind.identifier.name.toList := by decide
  cases calls with
  | blank skips =>
      cases text with
      | nil => cases answered
      | cons c rest =>
          rw [Recognizer.reading, Recognizer.blankReading] at answered
          split at answered <;> cases answered
  | lineComment set nonempty => cases answered
  | pattern listed compiled =>
      obtain ⟨kind?, expression, window, rfl, hkind⟩ := exists_of_patternEntry compiled
      cases kind? with
      | none => cases answered
      | some kind =>
          cases answered
          exact Token.isOneLine_of_rune?_eq_none (unbroken.kinds _ listed _ (hkind kind rfl)) rfl
  | numbers on =>
      simp only [Recognizer.numbers, Recognizer.reading, Recognizer.numberAnswer] at answered
      split at answered
      · cases answered
      · cases answered
        exact Token.isOneLine_of_rune?_eq_none hinteger rfl
      · next value notInt hvalue =>
          obtain ⟨whole, rfl⟩ | ⟨fraction, rfl⟩ := Recognizer.Written.value_cases hvalue
          · exact (notInt whole rfl).elim
          · cases answered
            exact Token.isOneLine_of_rune?_eq_none hfloat rfl
  | quotedText listed =>
      simp only [Recognizer.reading, Recognizer.quotedAnswer] at answered
      split at answered <;> cases answered
      exact Token.isOneLine_of_rune?_eq_none hstring rfl
  | words on =>
      simp only [Recognizer.reading, Recognizer.wordReading, Recognizer.lookup_keywords]
        at answered
      split at answered <;> cases answered
      refine Token.isOneLine_of_rune?_eq_none ?_ rfl
      dsimp only
      split
      · rw [Option.getD_some, String.toList_ofList]
        intro member
        have hpart := List.mem_takeWhile_imp member
        rw [Recognizer.isWordPart_of_isBlank rfl] at hpart
        cases hpart
      · exact hidentifier
  | symbol listed made =>
      have hsymbol := unbroken.symbols _ listed
      obtain ⟨c, single, rfl⟩ | ⟨-, nonempty, rfl⟩ := symbolRecognizer_cases made
      · simp only [Recognizer.reading] at answered
        split at answered <;> cases answered
        refine ⟨hsymbol, ?_⟩
        rintro ⟨⟩
        rw [single] at hsymbol
        exact hsymbol List.mem_cons_self
      · simp only [Recognizer.reading, Recognizer.literalReading] at answered
        split at answered <;> cases answered
        exact Token.isOneLine_of_rune?_eq_none hsymbol rfl

end Dialect

-----------------------------------------------------------------------------------------
-- The tokens of a text
-----------------------------------------------------------------------------------------

/-- Every token of a text occurs in it. -/
theorem Tokenizer.exists_occurrence {recognizers : List Recognizer} {name text : String}
    {tokens : List Token}
    (success : (ofRecognizers recognizers).tokenizeText name text = .ok tokens) {token : Token}
    (member : token ∈ tokens)
    : ∃ occurrence : Occurrence,
        occurrence.token = token ∧ occurrence.In recognizers name text.toList := by
  obtain ⟨pieces, rest, decomposes, -, rfl⟩ := exists_decomposes_of_ok success
  have hplace : (Cursor.ofText name text).view.origin
      = (Position.start name).advanceOver [] := rfl
  obtain ⟨occurrences, hoccurrences, hin, -⟩ := decomposes.exists_occurrences hplace
  rw [List.nil_append, Cursor.remaining_view, Cursor.remaining_ofText] at hin
  have member : token ∈ occurrences.map Occurrence.token := hoccurrences ▸ member
  obtain ⟨occurrence, member, htoken⟩ := List.mem_map.1 member
  exact ⟨occurrence, htoken, (hin occurrence member).1⟩

namespace Dialect

variable {dialect : Dialect} {compile : Pattern.Compiler} {tokenizer : Tokenizer}
  {name text : String} {tokens : List Token}

/-- In a text along which lines and columns are counted in 32 bits, the place of a token is what the
characters before it are counted to.
-/
theorem counted_of_tokens (built : dialect.build compile = .ok tokenizer)
    (success : tokenizer.tokenizeText name text = .ok tokens)
    (counts : (Position.start name).CountsOver text.toList) {token : Token}
    (member : token ∈ tokens)
    : ∃ before,
        before <+: text.toList
        ∧ token.origin? = (Position.start name).advanceOver? before := by
  obtain ⟨recognizers, -, rfl⟩ := exists_of_build built
  obtain ⟨occurrence, rfl, inText⟩ := Tokenizer.exists_occurrence success member
  have starts := List.take_prefix occurrence.offset text.toList
  refine ⟨_, starts, ?_⟩
  rw [inText.origin, counts.of_prefix starts]

end Dialect

end Lexical
