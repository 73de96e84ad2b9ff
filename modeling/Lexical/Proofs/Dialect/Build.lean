import Lexical.Dialect.Build
import Lexical.Proofs.Tokenizer.Round
import Mathlib.Data.List.Forall2

/-! What is in the tokenizer of a dialect. Each of its recognizers is there because some part of the
dialect calls for it.
-/

namespace Lexical

/-- Where two steps succeed, the first one does and gives the second what it goes on with. -/
theorem exists_of_bind_eq_ok {ε α β : Type} {first : Except ε α} {next : α → Except ε β}
    {result : β} (h : (first >>= next) = .ok result)
    : ∃ between, first = .ok between ∧ next between = .ok result := by
  cases first with
  | error fault => cases h
  | ok between => exact ⟨between, rfl, h⟩

section Lists

variable {ε α β : Type} {f : α → Except ε β} {elements : List α} {results : List β}

/-- The results for a list are those for its elements, by induction over the list. -/
theorem mapM_eq_ok_iff
    : elements.mapM f = .ok results
      ↔ List.Forall₂ (fun element result => f element = .ok result) elements results := by
  constructor
  · intro h
    induction elements generalizing results with
    | nil =>
        cases h
        exact .nil
    | cons element others ih =>
        rw [List.mapM_cons] at h
        obtain ⟨head, hhead, h⟩ := exists_of_bind_eq_ok h
        obtain ⟨tail, htail, h⟩ := exists_of_bind_eq_ok h
        cases h
        exact .cons hhead (ih htail)
  · intro h
    induction h with
    | nil => rfl
    | cons hhead _ ih =>
        rw [List.mapM_cons, hhead, ih]
        rfl

/-- Every result for a list is the result for one of its elements. -/
theorem exists_of_mem_mapM (h : elements.mapM f = .ok results) {result : β}
    (member : result ∈ results)
    : ∃ element ∈ elements, f element = .ok result := by
  rw [mapM_eq_ok_iff] at h
  induction h with
  | nil => cases member
  | cons hhead _ ih =>
      rcases List.mem_cons.1 member with rfl | member
      · exact ⟨_, List.mem_cons_self, hhead⟩
      · obtain ⟨element, listed, made⟩ := ih member
        exact ⟨element, List.mem_cons_of_mem _ listed, made⟩

/-- There are results for a list if there is one for each of its elements. -/
theorem exists_mapM_iff
    : (∃ results, elements.mapM f = .ok results)
      ↔ ∀ element ∈ elements, ∃ result, f element = .ok result := by
  simp only [mapM_eq_ok_iff]
  constructor
  · rintro ⟨results, h⟩
    induction h with
    | nil => simp
    | cons hhead _ ih => exact List.forall_mem_cons.2 ⟨⟨_, hhead⟩, ih⟩
  · intro h
    induction elements with
    | nil => exact ⟨[], .nil⟩
    | cons element others ih =>
        obtain ⟨⟨head, hhead⟩, others⟩ := List.forall_mem_cons.1 h
        obtain ⟨tail, htail⟩ := ih others
        exact ⟨head :: tail, .cons hhead htail⟩

end Lists

namespace Dialect

-----------------------------------------------------------------------------------------
-- Symbols
-----------------------------------------------------------------------------------------

theorem mem_dropRepeats {symbol : String} {symbols : List String}
    : symbol ∈ dropRepeats symbols ↔ symbol ∈ symbols := by
  fun_induction dropRepeats symbols with
  | case1 => rfl
  | case2 => rfl
  | case3 second rest ih => simp [ih]
  | case4 first second rest distinct ih => simp [ih]

/-- Putting symbols in order neither adds nor loses one. -/
theorem mem_orderedSymbols {symbol : String} {symbols : List String}
    : symbol ∈ orderedSymbols symbols ↔ symbol ∈ symbols :=
  mem_dropRepeats.trans List.mem_mergeSort

theorem exists_symbolRecognizer {symbol : String} (nonempty : symbol ≠ "")
    : ∃ recognizer, symbolRecognizer symbol = .ok recognizer := by
  unfold symbolRecognizer
  split
  · exact ⟨_, rfl⟩
  · rw [Recognizer.literal?, dif_pos nonempty]
    exact ⟨_, rfl⟩

/-- A symbol of one character is recognized as that character, and any other one as a text. -/
theorem symbolRecognizer_cases {symbol : String} {recognizer : Recognizer}
    (made : symbolRecognizer symbol = .ok recognizer)
    : (∃ c, symbol.toList = [c] ∧ recognizer = .rune ⟨symbol⟩ c)
      ∨ (∀ c, symbol.toList ≠ [c])
        ∧ ∃ nonempty, recognizer = .literal ⟨symbol⟩ symbol nonempty := by
  unfold symbolRecognizer at made
  split at made
  · next c single =>
      cases made
      exact .inl ⟨c, single, rfl⟩
  · next several =>
      unfold Recognizer.literal? at made
      split at made
      · next nonempty =>
          cases made
          exact .inr ⟨several, nonempty, rfl⟩
      · cases made

-----------------------------------------------------------------------------------------
-- Recognizers
-----------------------------------------------------------------------------------------

/-- The recognizers that the parts of a dialect call for, where its patterns are compiled in the
given way.
-/
inductive CallsFor (dialect : Dialect) (compile : Pattern.Compiler) : Recognizer → Prop
  | blank (skips : dialect.skipBlanks) : dialect.CallsFor compile .blank
  | lineComment {mark} (set : dialect.lineComment? = some mark) (nonempty : mark ≠ "")
    : dialect.CallsFor compile (.lineComment mark nonempty)
  | pattern {entry recognizer} (listed : entry ∈ dialect.patterns)
    (compiled : entry.recognizer compile = .ok recognizer)
    : dialect.CallsFor compile recognizer
  | numbers (on : dialect.numbers) : dialect.CallsFor compile Recognizer.numbers
  | quotedText {quote} (listed : quote ∈ dialect.quotes)
    : dialect.CallsFor compile (.quotedText quote .string)
  | words (on : dialect.words)
    : dialect.CallsFor compile
        (.word .identifier (dialect.keywords.map fun keyword => (keyword, ⟨keyword⟩)))
  | symbol {symbol recognizer} (listed : symbol ∈ dialect.punctuation)
    (made : symbolRecognizer symbol = .ok recognizer)
    : dialect.CallsFor compile recognizer

variable {dialect : Dialect} {compile : Pattern.Compiler} {recognizer : Recognizer}

theorem callsFor_of_mem_blankPart (member : recognizer ∈ dialect.blankPart)
    : dialect.CallsFor compile recognizer := by
  unfold blankPart at member
  split at member
  · next skips =>
      cases List.mem_singleton.1 member
      exact .blank skips
  · cases member

/-- The recognizer of comments is the only one of its part, if there is a mark for them. -/
theorem commentPart_cases {comments : List Recognizer} (h : dialect.commentPart = .ok comments)
    : dialect.lineComment? = none ∧ comments = []
      ∨ ∃ mark nonempty,
          dialect.lineComment? = some mark ∧ comments = [.lineComment mark nonempty] := by
  unfold commentPart at h
  split at h
  · next unset =>
      cases h
      exact .inl ⟨unset, rfl⟩
  · next mark set =>
      unfold Recognizer.lineComment? at h
      split at h
      · next comment made =>
          split at made
          · next nonempty =>
              cases made
              cases h
              exact .inr ⟨mark, nonempty, set, rfl⟩
          · cases made
      · cases h

theorem callsFor_of_mem_commentPart {comments : List Recognizer}
    (h : dialect.commentPart = .ok comments) (member : recognizer ∈ comments)
    : dialect.CallsFor compile recognizer := by
  obtain ⟨-, rfl⟩ | ⟨mark, nonempty, set, rfl⟩ := commentPart_cases h
  · cases member
  · cases List.mem_singleton.1 member
    exact .lineComment set nonempty

theorem callsFor_of_mem_numberPart (member : recognizer ∈ dialect.numberPart)
    : dialect.CallsFor compile recognizer := by
  unfold numberPart at member
  split at member
  · next on =>
      cases List.mem_singleton.1 member
      exact .numbers on
  · cases member

theorem callsFor_of_mem_wordPart {words : List Recognizer}
    (h : dialect.wordPart = .ok words) (member : recognizer ∈ words)
    : dialect.CallsFor compile recognizer := by
  unfold wordPart at h
  split at h
  · next on =>
      split at h
      · cases h
      · cases h
        cases List.mem_singleton.1 member
        exact .words on
  · split at h
    · cases h
      cases member
    · cases h

/-- The recognizers of a dialect are those of its parts in a row, where every part has some. -/
theorem recognizers_eq_ok_iff {recognizers : List Recognizer}
    : dialect.recognizers compile = .ok recognizers
      ↔ ∃ comments patterns words symbols,
          dialect.commentPart = .ok comments
          ∧ dialect.patterns.mapM (·.recognizer compile) = .ok patterns
          ∧ dialect.wordPart = .ok words
          ∧ (orderedSymbols dialect.punctuation).mapM symbolRecognizer = .ok symbols
          ∧ recognizers
            = dialect.blankPart ++ comments ++ patterns ++ dialect.numberPart ++ dialect.quotePart
              ++ words ++ symbols := by
  constructor
  · intro h
    obtain ⟨comments, hcomments, h⟩ := exists_of_bind_eq_ok h
    obtain ⟨patterns, hpatterns, h⟩ := exists_of_bind_eq_ok h
    obtain ⟨words, hwords, h⟩ := exists_of_bind_eq_ok h
    obtain ⟨symbols, hsymbols, h⟩ := exists_of_bind_eq_ok h
    cases h
    exact ⟨comments, patterns, words, symbols, hcomments, hpatterns, hwords, hsymbols, rfl⟩
  · rintro ⟨comments, patterns, words, symbols, hcomments, hpatterns, hwords, hsymbols, rfl⟩
    rw [Dialect.recognizers, hcomments, hpatterns, hwords, hsymbols]
    rfl

/-- Every recognizer of a dialect is called for by the part that it comes from. -/
theorem callsFor_of_recognizers {recognizers : List Recognizer}
    (h : dialect.recognizers compile = .ok recognizers) (member : recognizer ∈ recognizers)
    : dialect.CallsFor compile recognizer := by
  obtain ⟨comments, patterns, words, symbols, hcomments, hpatterns, hwords, hsymbols, rfl⟩ :=
    recognizers_eq_ok_iff.1 h
  simp only [List.mem_append, or_assoc] at member
  rcases member with blank | comment | pattern | number | quote | word | symbol
  · exact callsFor_of_mem_blankPart blank
  · exact callsFor_of_mem_commentPart hcomments comment
  · obtain ⟨entry, listed, compiled⟩ := exists_of_mem_mapM hpatterns pattern
    exact .pattern listed compiled
  · exact callsFor_of_mem_numberPart number
  · obtain ⟨quote, listed, rfl⟩ := List.mem_map.1 quote
    exact .quotedText listed
  · exact callsFor_of_mem_wordPart hwords word
  · obtain ⟨symbol, listed, made⟩ := exists_of_mem_mapM hsymbols symbol
    exact .symbol (mem_orderedSymbols.1 listed) made

/-- A dialect that skips blanks does so before anything else. -/
theorem exists_eq_blank_cons {recognizers : List Recognizer} (skips : dialect.skipBlanks)
    (h : dialect.recognizers compile = .ok recognizers)
    : ∃ others, recognizers = .blank :: others := by
  obtain ⟨comments, patterns, words, symbols, -, -, -, -, rfl⟩ := recognizers_eq_ok_iff.1 h
  have hblank : dialect.blankPart = [.blank] := if_pos skips
  simp only [hblank, List.cons_append]
  exact ⟨_, rfl⟩

-----------------------------------------------------------------------------------------
-- Tokenizers
-----------------------------------------------------------------------------------------

/-- A dialect that builds has recognizers, and its tokenizer is theirs. -/
theorem exists_of_build {tokenizer : Tokenizer} (h : dialect.build compile = .ok tokenizer)
    : ∃ recognizers,
        dialect.recognizers compile = .ok recognizers
        ∧ tokenizer = Tokenizer.ofRecognizers recognizers := by
  unfold build at h
  split at h
  · next recognizers hrecognizers =>
      cases h
      exact ⟨recognizers, hrecognizers, rfl⟩
  · cases h

/-- The standard dialect builds, since its mark and its symbols are not empty. -/
theorem exists_build_standard (compile : Pattern.Compiler)
    : ∃ tokenizer, standard.build compile = .ok tokenizer := by
  have hsymbols : ∀ symbol ∈ orderedSymbols standard.punctuation,
      ∃ recognizer, symbolRecognizer symbol = .ok recognizer := by
    intro symbol member
    apply exists_symbolRecognizer
    rintro rfl
    rw [mem_orderedSymbols] at member
    revert member
    decide
  obtain ⟨symbols, hsymbols⟩ := exists_mapM_iff.2 hsymbols
  have hrecognizers : standard.recognizers compile = .ok _ :=
    recognizers_eq_ok_iff.2 ⟨_, _, _, symbols, rfl, rfl, rfl, hsymbols, rfl⟩
  rw [build, hrecognizers]
  exact ⟨_, rfl⟩

end Dialect

end Lexical
