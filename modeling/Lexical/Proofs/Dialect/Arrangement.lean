import Lexical.Proofs.Dialect.Symbols
import Lexical.Proofs.Recognizer.Keyword
import Lexical.Proofs.Tokenizer.Cut
import Mathlib

/-! The lists of a dialect as sets. Quotes, keywords and symbols may be listed in any order and more
than once: at every text the same rule is chosen, which is all that a session depends on, and a
dialect without a tokenizer has the same defect.
-/

namespace Lexical

-----------------------------------------------------------------------------------------
-- Tokenizers that choose the same rules
-----------------------------------------------------------------------------------------

namespace Tokenizer

variable {tokenizer other : Tokenizer} {v w rest : View} {piece : Piece}
  {pieces : List Piece}

/-- At every view both tokenizers choose the same rule, or neither chooses one. -/
def ChoosesAs (other tokenizer : Tokenizer) : Prop :=
  ∀ v, other.chosen v = tokenizer.chosen v

theorem ChoosesAs.symm (same : other.ChoosesAs tokenizer) : tokenizer.ChoosesAs other :=
  fun v => (same v).symm

theorem Cuts.of_choosesAs (same : other.ChoosesAs tokenizer) (h : tokenizer.Cuts v piece w)
    : other.Cuts v piece w :=
  { h with chosen := (same v).trans h.chosen }

/-- A decomposition is one for every tokenizer that chooses the same rules, by induction over its
pieces.
-/
theorem Decomposes.of_choosesAs (same : other.ChoosesAs tokenizer)
    (h : tokenizer.Decomposes v pieces rest)
    : other.Decomposes v pieces rest := by
  induction h with
  | stuck stuck => exact .stuck fun piece w cuts => stuck piece w (cuts.of_choosesAs same.symm)
  | cut cuts _ ih => exact .cut (cuts.of_choosesAs same) ih

/-- Tokenizers that choose the same rules have the same sessions. -/
theorem ChoosesAs.session_eq (same : other.ChoosesAs tokenizer) (looking : tokenizer.OnlyLooks)
    (looking' : other.OnlyLooks) (c : Cursor)
    : (other.session c).1 = (tokenizer.session c).1 := by
  obtain ⟨pieces, rest, decomposes⟩ := tokenizer.exists_decomposes c.view
  have hending : other.endingAt rest = tokenizer.endingAt rest := by
    rw [endingAt, endingAt, same rest]
  rw [session, session, sessionOnto_of_decomposes looking decomposes [] rfl,
    sessionOnto_of_decomposes looking' (decomposes.of_choosesAs same) [] rfl, hending]

/-- Of two lists of recognizers in a row, those of the second one are chosen only where none of the
first one is.
-/
theorem chosen_ofRecognizers_append (first second : List Recognizer) (v : View)
    : (ofRecognizers (first ++ second)).chosen v
      = ((ofRecognizers first).chosen v).or ((ofRecognizers second).chosen v) := by
  rw [chosen, ofRecognizers, List.map_append, List.find?_append]
  rfl

end Tokenizer

namespace Recognizer

/-- Among recognizers of quoted text only that of the next character starts, so that it is enough to
know whether it is there. By induction over the quotes.
-/
theorem find?_quotedText (kind : Kind) (quotes : List Char) (text : List Char)
    : (quotes.map fun quote => quotedText quote kind).find? (·.starts text)
      = text.head?.bind fun c => if c ∈ quotes then some (quotedText c kind) else none := by
  cases text with
  | nil =>
      rw [List.find?_eq_none.2]
      · rfl
      · intro recognizer member
        obtain ⟨quote, -, rfl⟩ := List.mem_map.1 member
        exact Bool.false_ne_true
  | cons c rest =>
      induction quotes with
      | nil => rfl
      | cons quote quotes ih =>
          have hstarts : (quotedText quote kind).starts (c :: rest) = (c == quote) := rfl
          rw [List.map_cons, List.find?_cons, hstarts, ih, List.head?_cons, Option.bind_some,
            Option.bind_some]
          by_cases same : c = quote
          · rw [same, beq_self_eq_true, if_pos List.mem_cons_self]
          · rw [beq_eq_false_iff_ne.2 same]
            simp only [List.mem_cons, same, false_or]

end Recognizer

-----------------------------------------------------------------------------------------
-- Dialects with the same lists up to order and repetition
-----------------------------------------------------------------------------------------

namespace Dialect

variable {dialect other : Dialect}

/-- The dialects are the same but for the order of quotes, keywords and symbols and how often they
are listed.
-/
structure SameAsSets (dialect other : Dialect) : Prop where
  skipBlanks : other.skipBlanks = dialect.skipBlanks
  lineComment? : other.lineComment? = dialect.lineComment?
  numbers : other.numbers = dialect.numbers
  words : other.words = dialect.words
  patterns : other.patterns = dialect.patterns
  quotes : ∀ quote, quote ∈ other.quotes ↔ quote ∈ dialect.quotes
  keywords : ∀ keyword, keyword ∈ other.keywords ↔ keyword ∈ dialect.keywords
  punctuation : ∀ symbol, symbol ∈ other.punctuation ↔ symbol ∈ dialect.punctuation

/-- The words of both dialects have the same defect or make the same rules. -/
theorem SameAsSets.wordPart (same : dialect.SameAsSets other)
    : (∃ defect, dialect.wordPart = .error defect ∧ other.wordPart = .error defect)
      ∨ ∃ words words',
          dialect.wordPart = .ok words
          ∧ other.wordPart = .ok words'
          ∧ words'.map Recognizer.toRule = words.map Recognizer.toRule := by
  have hempty : other.keywords.isEmpty = dialect.keywords.isEmpty := by
    rw [Bool.eq_iff_iff, List.isEmpty_iff, List.isEmpty_iff, List.eq_nil_iff_forall_not_mem,
      List.eq_nil_iff_forall_not_mem]
    exact forall_congr' fun keyword => not_congr (same.keywords keyword)
  simp only [Dialect.wordPart, same.words, same.keywords, hempty]
  split
  · split
    · exact .inl ⟨_, rfl, rfl⟩
    · refine .inr ⟨_, _, rfl, rfl, ?_⟩
      rw [List.map_cons, List.map_cons, Recognizer.toRule_word_eq]
      intro word
      simp only [Recognizer.lookup_keywords, same.keywords]
  · split
    · exact .inr ⟨_, _, rfl, rfl, rfl⟩
    · exact .inl ⟨_, rfl, rfl⟩

/-- Whichever way quotes are listed, the same rule is chosen among them. -/
theorem SameAsSets.chosen_quotePart (same : dialect.SameAsSets other) (v : View)
    : (Tokenizer.ofRecognizers other.quotePart).chosen v
      = (Tokenizer.ofRecognizers dialect.quotePart).chosen v := by
  rw [Tokenizer.chosen_ofRecognizers, Tokenizer.chosen_ofRecognizers, quotePart, quotePart,
    Recognizer.find?_quotedText, Recognizer.find?_quotedText]
  simp only [same.quotes]

/-- Both dialects have the same defect, or recognizers of which the same are chosen everywhere. -/
theorem SameAsSets.recognizers (same : dialect.SameAsSets other) (compile : Pattern.Compiler)
    : (∃ defect,
          dialect.recognizers compile = .error defect
          ∧ other.recognizers compile = .error defect)
      ∨ ∃ recognizers recognizers',
          dialect.recognizers compile = .ok recognizers
          ∧ other.recognizers compile = .ok recognizers'
          ∧ (Tokenizer.ofRecognizers recognizers').ChoosesAs
              (Tokenizer.ofRecognizers recognizers) := by
  have hcomments : other.commentPart = dialect.commentPart := by
    rw [commentPart, commentPart, same.lineComment?]
  have hsymbols := orderedSymbols_eq_of_mem_iff same.punctuation
  rw [Dialect.recognizers, Dialect.recognizers, hcomments, same.patterns, hsymbols]
  cases dialect.commentPart with
  | error defect => exact .inl ⟨defect, rfl, rfl⟩
  | ok comments =>
      cases dialect.patterns.mapM (·.recognizer compile) with
      | error defect => exact .inl ⟨defect, rfl, rfl⟩
      | ok patterns =>
          rcases same.wordPart with
            ⟨defect, hwords, hwords'⟩ | ⟨words, words', hwords, hwords', hrules⟩
          · rw [hwords, hwords']
            exact .inl ⟨defect, rfl, rfl⟩
          · rw [hwords, hwords']
            cases (orderedSymbols dialect.punctuation).mapM symbolRecognizer with
            | error defect => exact .inl ⟨defect, rfl, rfl⟩
            | ok symbols =>
                refine .inr ⟨_, _, rfl, rfl, ?_⟩
                intro v
                have hwordPart : Tokenizer.ofRecognizers words' = Tokenizer.ofRecognizers words :=
                  congrArg Tokenizer.mk hrules
                have hblank : other.blankPart = dialect.blankPart := by
                  rw [blankPart, blankPart, same.skipBlanks]
                have hnumbers : other.numberPart = dialect.numberPart := by
                  rw [numberPart, numberPart, same.numbers]
                simp only [Tokenizer.chosen_ofRecognizers_append, hblank, hnumbers,
                  same.chosen_quotePart, hwordPart]

/-- Quotes, keywords and symbols count as sets. Dialects that differ only in the order of these
lists and in how often they name something are both without a tokenizer, for the same reason, or
their tokenizers do the same: they have the same session over every source and the same tokens or
the same failure for every text.
-/
theorem lists_count_as_sets (compile : Pattern.Compiler) (dialect other : Dialect)
    (same : dialect.SameAsSets other)
    : (∃ error, dialect.build compile = .error error ∧ other.build compile = .error error)
      ∨ ∃ tokenizer tokenizer',
          dialect.build compile = .ok tokenizer
          ∧ other.build compile = .ok tokenizer'
          ∧ (∀ c, (tokenizer'.session c).1 = (tokenizer.session c).1)
          ∧ ∀ name text, tokenizer'.tokenizeText name text = tokenizer.tokenizeText name text := by
  rcases same.recognizers compile with ⟨defect, h, h'⟩ | ⟨recognizers, recognizers', h, h', chooses⟩
  · rw [build, build, h, h']
    exact .inl ⟨_, rfl, rfl⟩
  · rw [build, build, h, h']
    have hsession := chooses.session_eq (Tokenizer.onlyLooks_ofRecognizers recognizers)
      (Tokenizer.onlyLooks_ofRecognizers recognizers')
    refine .inr ⟨_, _, rfl, rfl, hsession, ?_⟩
    intro name text
    exact congrArg Session.outcome (hsession (Cursor.ofText name text))

/-- A dialect of words, two keywords, two quotes and two symbols. -/
def listed : Dialect :=
  { bare with
    words := true
    quotes := ['"', '\'']
    keywords := ["in", "let"]
    punctuation := [">", ">>"] }

/-- The same dialect listed in another order, and with repetitions. -/
def relisted : Dialect :=
  { listed with
    quotes := ['\'', '"', '\'']
    keywords := ["let", "in", "let"]
    punctuation := [">>", ">", ">>"] }

/-- The recognizers of its first form. -/
def listedRecognizers : List Recognizer :=
  [.quotedText '"' .string, .quotedText '\'' .string,
    .word .identifier [("in", ⟨"in"⟩), ("let", ⟨"let"⟩)],
    .literal ⟨">>"⟩ ">>" (by decide), .rune ⟨">"⟩ '>']

/-- A keyword, a quoted text and the longer symbol, the same in both forms. -/
theorem relisted_tokens
    : listed.SameAsSets relisted
      ∧ ∃ tokenizer,
          relisted.build = .ok tokenizer
          ∧ tokenizer.tokenizeText "notes" "let'a'>>"
            = .ok [⟨⟨"let"⟩, .text "let", some ⟨"notes", 1, 1⟩⟩,
                ⟨.string, .text "a", some ⟨"notes", 1, 4⟩⟩,
                ⟨⟨">>"⟩, .text ">>", some ⟨"notes", 1, 7⟩⟩] := by
  have hrecognizers : listed.recognizers Pattern.compile = .ok listedRecognizers := by cbv
  have built : listed.build = .ok (.ofRecognizers listedRecognizers) := by
    rw [build, hrecognizers]
    rfl
  have same : listed.SameAsSets relisted := by
    refine ⟨rfl, rfl, rfl, rfl, rfl, ?_, ?_, ?_⟩
    all_goals
      intro entry
      simp only [listed, relisted, List.mem_cons, List.not_mem_nil, or_false]
      tauto
  refine ⟨same, ?_⟩
  rcases lists_count_as_sets Pattern.compile listed relisted same with
    ⟨error, failed, -⟩ | ⟨tokenizer, tokenizer', built', relisted, -, hsame⟩
  · rw [built] at failed
    cases failed
  · rw [built] at built'
    cases built'
    refine ⟨tokenizer', relisted, ?_⟩
    rw [hsame]
    cbv

end Dialect

end Lexical
