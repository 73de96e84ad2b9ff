import Lexical.Proofs.Dialect.Symbols
import Lexical.Proofs.Tokenizer.Relocation

/-! The punctuation of a dialect. Where nothing else starts, a session takes the longest symbol that
begins the text, in whatever order and however often the symbols are listed, and it stops at a
character only where no symbol begins with it as the text does.
-/

namespace Lexical.Dialect

variable {dialect : Dialect} {compile : Pattern.Compiler}

/-- Nothing that the dialect calls for starts at the text, its symbols aside: neither blanks,
comments and patterns nor numbers, quoted text and words.
-/
def LeavesToSymbols (dialect : Dialect) (compile : Pattern.Compiler) (text : List Char) : Prop :=
  ∀ recognizer,
    { dialect with punctuation := [] }.CallsFor compile recognizer
    → recognizer.starts text = false

/-- The recognizers of symbols come behind those of the dialect without its punctuation. -/
theorem exists_eq_append_symbols {recognizers : List Recognizer}
    (h : dialect.recognizers compile = .ok recognizers)
    : ∃ leading symbols,
        { dialect with punctuation := [] }.recognizers compile = .ok leading
        ∧ (orderedSymbols dialect.punctuation).mapM symbolRecognizer = .ok symbols
        ∧ recognizers = leading ++ symbols := by
  obtain ⟨comments, patterns, words, symbols, hcomments, hpatterns, hwords, hsymbols, rfl⟩ :=
    recognizers_eq_ok_iff.1 h
  have hnone : (orderedSymbols []).mapM symbolRecognizer = .ok [] := by
    rw [orderedSymbols, List.mergeSort_nil]
    rfl
  have hleading : { dialect with punctuation := [] }.recognizers compile = .ok _ :=
    recognizers_eq_ok_iff.2
      ⟨comments, patterns, words, [], hcomments, hpatterns, hwords, hnone, rfl⟩
  rw [List.append_nil] at hleading
  exact ⟨_, symbols, hleading, hsymbols, rfl⟩

/-- Where the text is left to the symbols, nothing starts and none of them begins it, or the
longest of those that begin it is recognized first.
-/
theorem LeavesToSymbols.find?_cases {recognizers : List Recognizer} {text : List Char}
    (free : dialect.LeavesToSymbols compile text)
    (h : dialect.recognizers compile = .ok recognizers)
    : recognizers.find? (·.starts text) = none
        ∧ (∀ symbol ∈ dialect.punctuation, ¬symbol.toList <+: text)
      ∨ ∃ symbol recognizer,
          Longest dialect.punctuation text symbol
          ∧ symbolRecognizer symbol = .ok recognizer
          ∧ recognizers.find? (·.starts text) = some recognizer := by
  obtain ⟨leading, symbols, hleading, hsymbols, rfl⟩ := exists_eq_append_symbols h
  have hidle : leading.find? (·.starts text) = none := by
    rw [List.find?_eq_none]
    intro recognizer member starts
    rw [free recognizer (callsFor_of_recognizers hleading member)] at starts
    cases starts
  have hrel := find?_symbolRecognizers hsymbols text
  rw [List.find?_append, hidle, Option.none_or]
  generalize hfound : (orderedSymbols dialect.punctuation).find? (·.toList.isPrefixOf text)
    = symbol? at hrel
  generalize symbols.find? (·.starts text) = recognizer? at hrel ⊢
  cases hrel with
  | none =>
      refine .inl ⟨rfl, ?_⟩
      intro symbol listed begins
      have hnot := List.find?_eq_none.1 hfound symbol (mem_orderedSymbols.2 listed)
      exact hnot (List.isPrefixOf_iff_prefix.2 begins)
  | @some symbol recognizer made =>
      exact .inr ⟨symbol, recognizer, longest_of_find? hfound, made, rfl⟩

/-- Symbols are taken by longest match. At every point of a session, between two lexemes or at
either end, where only symbols can start: if some symbol begins the text there, the next lexeme is
the one symbol that is longer than all others that do, and its token has the symbol as its kind and
the character or the text of the symbol as its value; and the session ends there with an unexpected
character just if there is a character and no symbol begins the text.
-/
theorem longest_symbol_is_taken (dialect : Dialect) {tokenizer : Tokenizer}
    (built : dialect.build compile = .ok tokenizer) (c : Cursor) {done further : List Lexeme}
    (split : (tokenizer.session c).1.lexemes = done ++ further)
    (text : List Char) (left : text = c.remaining.drop (Lexeme.totalLength done))
    (place : Position)
    (reached : place = c.origin.advanceOver (c.remaining.take (Lexeme.totalLength done)))
    (free : dialect.LeavesToSymbols compile text)
    : ((∃ symbol ∈ dialect.punctuation, symbol.toList <+: text)
        → ∃ symbol rule others,
            Longest dialect.punctuation text symbol
            ∧ further
              = ⟨rule, place, symbol.length, some ⟨⟨symbol⟩, symbolValue symbol, some place⟩⟩
                :: others)
      ∧ ∀ character,
          further = [] ∧ (tokenizer.session c).1.ending = .unexpected character place
          ↔ text.head? = some character
            ∧ ∀ symbol ∈ dialect.punctuation, ¬symbol.toList <+: text := by
  obtain ⟨recognizers, hrecognizers, rfl⟩ := exists_of_build built
  obtain ⟨others, w, rest, behind, hremaining, horigin, hfurther, hending⟩ :=
    Tokenizer.exists_decomposes_behind split
  rw [← left] at hremaining
  rw [← reached] at horigin
  subst hremaining horigin hfurther
  rcases free.find?_cases hrecognizers with
    ⟨idle, hnone⟩ | ⟨symbol, recognizer, longest, made, first⟩
  · obtain ⟨rfl, rfl⟩ := behind.eq_nil_of_idle idle
    constructor
    · rintro ⟨symbol, listed, begins⟩
      exact (hnone symbol listed begins).elim
    · intro character
      rw [hending, Tokenizer.endingAt_eq_unexpected_iff idle]
      exact ⟨fun ⟨_, hhead⟩ => ⟨hhead, hnone⟩, fun ⟨hhead, _⟩ => ⟨rfl, hhead⟩⟩
  · have starts := List.isPrefixOf_iff_prefix.2 longest.begins
    obtain ⟨more, hmore⟩ := behind.exists_lexemes_eq_cons first
      (reading_of_symbolRecognizer made starts w.origin)
    rw [hmore]
    constructor
    · intro _
      exact ⟨symbol, recognizer.name, more, longest, rfl⟩
    · intro character
      constructor
      · rintro ⟨hnil, -⟩
        cases hnil
      · rintro ⟨-, hnone⟩
        exact (hnone symbol longest.listed longest.begins).elim

/-- A dialect of words and of symbols that begin alike, one of them listed twice. -/
def shifts : Dialect :=
  { bare with words := true, punctuation := ["<", "<<=", "<<", "<"] }

/-- The recognizers of its tokenizer, longer symbols first. -/
def shiftRecognizers : List Recognizer :=
  [.words, .literal ⟨"<<="⟩ "<<=" (by decide), .literal ⟨"<<"⟩ "<<" (by decide), .rune ⟨"<"⟩ '<']

/-- Behind a word, the longest of three symbols that begin the rest. -/
theorem longest_symbol_behind_word
    : ∃ tokenizer,
        shifts.build = .ok tokenizer
        ∧ (tokenizer.session (Cursor.ofText "notes" "a<<=<")).1.lexemes
          = [⟨Recognizer.words.name, ⟨"notes", 1, 1⟩, 1,
                some ⟨.identifier, .text "a", some ⟨"notes", 1, 1⟩⟩⟩]
            ++ [⟨"<<=", ⟨"notes", 1, 2⟩, 3,
                some ⟨⟨"<<="⟩, .text "<<=", some ⟨"notes", 1, 2⟩⟩⟩,
              ⟨(Recognizer.rune ⟨"<"⟩ '<').name, ⟨"notes", 1, 5⟩, 1,
                some ⟨⟨"<"⟩, .rune '<', some ⟨"notes", 1, 5⟩⟩⟩]
        ∧ shifts.LeavesToSymbols Pattern.compile ['<', '<', '=', '<']
        ∧ Longest shifts.punctuation ['<', '<', '=', '<'] "<<=" := by
  have hrecognizers : shifts.recognizers Pattern.compile = .ok shiftRecognizers := by cbv
  have built : shifts.build = .ok (.ofRecognizers shiftRecognizers) := by
    rw [build, hrecognizers]
    rfl
  have split : ((Tokenizer.ofRecognizers shiftRecognizers).session
        (Cursor.ofText "notes" "a<<=<")).1.lexemes
      = [⟨Recognizer.words.name, ⟨"notes", 1, 1⟩, 1,
            some ⟨.identifier, .text "a", some ⟨"notes", 1, 1⟩⟩⟩]
        ++ [⟨"<<=", ⟨"notes", 1, 2⟩, 3,
            some ⟨⟨"<<="⟩, .text "<<=", some ⟨"notes", 1, 2⟩⟩⟩,
          ⟨(Recognizer.rune ⟨"<"⟩ '<').name, ⟨"notes", 1, 5⟩, 1,
            some ⟨⟨"<"⟩, .rune '<', some ⟨"notes", 1, 5⟩⟩⟩] := by
    cbv
  have free : shifts.LeavesToSymbols Pattern.compile ['<', '<', '=', '<'] := by
    intro recognizer calls
    cases calls with
    | blank skips => cases skips
    | lineComment set nonempty => cases set
    | pattern listed compiled => cases listed
    | numbers on => cases on
    | quotedText listed => cases listed
    | words on => rfl
    | symbol listed made => cases listed
  obtain ⟨taken, -⟩ :=
    longest_symbol_is_taken shifts built _ split _ rfl ⟨"notes", 1, 2⟩ rfl free
  obtain ⟨symbol, rule, others, longest, hnext⟩ := taken ⟨"<", by decide, by decide⟩
  simp only [List.cons.injEq, Lexeme.mk.injEq, Option.some.injEq, Token.mk.injEq,
    Kind.mk.injEq] at hnext
  obtain ⟨⟨-, -, -, rfl, -⟩, -⟩ := hnext
  exact ⟨_, built, split, free, longest⟩

end Lexical.Dialect
