import Lexical.Proofs.Tokenizer.Cut

/-! The grammar of quoted text. Behind an opening quote come items, each a character as it is or a
backslash with a character that stands for another one; what comes behind the items settles whether
the text is closed, broken by an unknown escape, or runs out. Quoted text is read by this grammar,
and every text can be written between quotes.
-/

namespace Lexical.Recognizer

-----------------------------------------------------------------------------------------
-- Items
-----------------------------------------------------------------------------------------

/-- How a character is written in quoted text: as it is, or behind a backslash as the character that
stands for it. There are no escapes where the backslash is the quote.
-/
inductive Item (quote : Char) : List Char → Char → Prop
  | plain {c} (other : c ≠ quote) (unescaped : c ≠ '\\') : Item quote [c] c
  | escape {key c} (opens : quote ≠ '\\') (listed : unescape? key = some c)
    : Item quote ['\\', key] c

/-- Items in a row, with the characters that they stand for. -/
inductive Items (quote : Char) : List Char → List Char → Prop
  | nil : Items quote [] []
  | cons {written c others content} (item : Item quote written c)
    (items : Items quote others content)
    : Items quote (written ++ others) (c :: content)

/-- What comes behind items that stand for a content, what of it is taken, and what the quoted text
comes to: the quote, an unknown escape, or the end with or without a backslash before it.
-/
inductive Closing (quote : Char) (content : String)
    : List Char → List Char → Except Error.Cause String → Prop
  | quote (rest : List Char) : Closing quote content (quote :: rest) [quote] (.ok content)
  | unknown {key} (opens : quote ≠ '\\') (unlisted : unescape? key = none) (rest : List Char)
    : Closing quote content ('\\' :: key :: rest) ['\\', key]
        (.error (.unknownEscape key content))
  | ended : Closing quote content [] [] (.error (.unterminatedString content))
  | halfEscape (opens : quote ≠ '\\')
    : Closing quote content ['\\'] ['\\'] (.error (.unterminatedString content))

variable {quote : Char} {text written content rest taken : List Char}
  {outcome : Except Error.Cause String}

/-- A walk over quoted text takes an item in one or two steps, and has then one character more. -/
theorem Item.walkText {c : Char} (item : Item quote written c)
    (atEnd : QuotedState → Except Error.Cause String) (soFar rest : List Char)
    : Cursor.walkText (quotedMove quote) atEnd ⟨false, soFar⟩ (written ++ rest)
      = ((Cursor.walkText (quotedMove quote) atEnd ⟨false, c :: soFar⟩ rest).1,
          (Cursor.walkText (quotedMove quote) atEnd ⟨false, c :: soFar⟩ rest).2
            + written.length) := by
  cases item with
  | plain other unescaped => simp [Cursor.walkText, quotedMove, other, unescaped]
  | escape opens listed => simp [Cursor.walkText, quotedMove, opens.symm, listed]

/-- A walk over items has what they stand for, by induction over the items with what was read before
them as the state.
-/
theorem Items.walkText (items : Items quote written content)
    (atEnd : QuotedState → Except Error.Cause String) (soFar rest : List Char)
    : Cursor.walkText (quotedMove quote) atEnd ⟨false, soFar⟩ (written ++ rest)
      = ((Cursor.walkText (quotedMove quote) atEnd ⟨false, content.reverse ++ soFar⟩ rest).1,
          (Cursor.walkText (quotedMove quote) atEnd ⟨false, content.reverse ++ soFar⟩ rest).2
            + written.length) := by
  induction items generalizing soFar with
  | nil => simp
  | @cons first c others content item items ih =>
      rw [List.append_assoc, item.walkText, ih]
      simp [Nat.add_assoc, Nat.add_comm first.length]

/-- What comes behind the items ends the walk, and is taken as far as it belongs to the text. -/
theorem Closing.walkText {soFar : List Char}
    (closing : Closing quote (String.ofList soFar.reverse) rest taken outcome)
    : Cursor.walkText (quotedMove quote)
        (fun state => .error (.unterminatedString state.text)) ⟨false, soFar⟩ rest
      = (outcome, taken.length) := by
  cases closing with
  | quote rest => simp [Cursor.walkText, quotedMove, QuotedState.text]
  | unknown opens unlisted rest =>
      simp [Cursor.walkText, quotedMove, opens.symm, unlisted, QuotedState.text]
  | ended => simp [Cursor.walkText, QuotedState.text]
  | halfEscape opens => simp [Cursor.walkText, quotedMove, opens.symm, QuotedState.text]

/-- Quoted text is read item by item up to what closes it. -/
theorem Items.quotedAt (items : Items quote written content)
    (closing : Closing quote (String.ofList content) rest taken outcome)
    : quotedAt quote (written ++ rest) = (outcome, (written ++ taken).length) := by
  have closing : Closing quote (String.ofList (content.reverse ++ []).reverse) rest taken
      outcome := by
    simpa using closing
  have hwalk := items.walkText (fun state => .error (.unterminatedString state.text)) [] rest
  rw [closing.walkText] at hwalk
  simpa [Recognizer.quotedAt, Nat.add_comm] using hwalk

-----------------------------------------------------------------------------------------
-- The grammar
-----------------------------------------------------------------------------------------

/-- The text behind an opening quote by the grammar: items, and what comes behind them. The items
are taken, and what belongs to their closing.
-/
inductive Quoted (quote : Char) : List Char → List Char → Except Error.Cause String → Prop
  | intro {written content rest closed outcome} (items : Items quote written content)
    (closing : Closing quote (String.ofList content) rest closed outcome)
    : Quoted quote (written ++ rest) (written ++ closed) outcome

/-- Behind the last item something closes the text, by recursion over the text: a character that
starts no item is the quote, or a backslash without a character that may follow it.
-/
theorem exists_items (quote : Char) (text : List Char)
    : ∃ written content rest,
        text = written ++ rest
        ∧ Items quote written content
        ∧ ∀ before, ∃ closed outcome, Closing quote before rest closed outcome := by
  match text with
  | [] => exact ⟨[], [], [], rfl, .nil, fun _ => ⟨_, _, .ended⟩⟩
  | c :: others =>
      by_cases closes : c = quote
      · subst closes
        exact ⟨[], [], c :: others, rfl, .nil, fun _ => ⟨_, _, .quote others⟩⟩
      · by_cases backslash : c = '\\'
        · subst backslash
          have opens : quote ≠ '\\' := Ne.symm closes
          match others with
          | [] => exact ⟨[], [], ['\\'], rfl, .nil, fun _ => ⟨_, _, .halfEscape opens⟩⟩
          | key :: behind =>
              cases listed : unescape? key with
              | none =>
                  exact ⟨[], [], _, rfl, .nil, fun _ => ⟨_, _, .unknown opens listed behind⟩⟩
              | some meant =>
                  obtain ⟨written, content, rest, rfl, items, closing⟩ :=
                    exists_items quote behind
                  exact ⟨_, _, rest, rfl, .cons (.escape opens listed) items, closing⟩
        · obtain ⟨written, content, rest, rfl, items, closing⟩ := exists_items quote others
          exact ⟨_, _, rest, rfl, .cons (.plain closes backslash) items, closing⟩
termination_by text.length

/-- Every text follows the grammar in some way. -/
theorem exists_quoted (quote : Char) (text : List Char)
    : ∃ taken outcome, Quoted quote text taken outcome := by
  obtain ⟨written, content, rest, rfl, items, closing⟩ := exists_items quote text
  obtain ⟨closed, outcome, closing⟩ := closing (String.ofList content)
  exact ⟨_, _, items, closing⟩

/-- What is taken by the grammar begins the text. -/
theorem Quoted.isPrefix (h : Quoted quote text taken outcome) : taken <+: text := by
  obtain ⟨items, closing⟩ := h
  apply (List.prefix_append_right_inj _).2
  cases closing with
  | quote rest => exact ⟨rest, rfl⟩
  | unknown opens unlisted rest => exact ⟨rest, rfl⟩
  | ended => exact List.prefix_rfl
  | halfEscape opens => exact List.prefix_rfl

/-- Quoted text is read as the grammar says. -/
theorem Quoted.quotedAt (h : Quoted quote text taken outcome)
    : Recognizer.quotedAt quote text = (outcome, taken.length) := by
  obtain ⟨items, closing⟩ := h
  exact items.quotedAt closing

theorem quotedAnswer_injective (kind : Kind) : Function.Injective (quotedAnswer kind) := by
  rintro (cause | content) (cause' | content') same
  · cases same
    rfl
  · cases same
  · cases same
  · cases same
    rfl

/-- At an opening quote, consuming answers by the grammar of the text behind it, and takes the quote
and what the grammar takes.
-/
theorem consume_quotedText_iff {c : Cursor} (opened : c.remaining = quote :: text) (kind : Kind)
    : ((Recognizer.quotedText quote kind).consume.run c).1 = quotedAnswer kind outcome
        ∧ c.StepsOver (quote :: taken) ((Recognizer.quotedText quote kind).consume.run c).2
      ↔ Quoted quote text taken outcome := by
  have run {taken : List Char} {outcome : Except Error.Cause String}
      (h : Quoted quote text taken outcome)
      : ((Recognizer.quotedText quote kind).consume.run c).1 = quotedAnswer kind outcome
        ∧ c.StepsOver (quote :: taken)
            ((Recognizer.quotedText quote kind).consume.run c).2 := by
    have hreading : (Recognizer.quotedText quote kind).reading c.origin c.remaining
        = ⟨quotedAnswer kind outcome, (quote :: taken).length⟩ := by
      simp [reading, opened, h.quotedAt, Nat.add_comm]
    constructor
    · rw [fst_run_consume, hreading]
    · apply stepsOver_consume
      · simpa [opened] using h.isPrefix
      · rw [hreading]
  refine ⟨?_, run⟩
  rintro ⟨hanswer, hsteps⟩
  obtain ⟨taken', outcome', h⟩ := exists_quoted quote text
  obtain ⟨hanswer', hsteps'⟩ := run h
  obtain rfl : outcome' = outcome := quotedAnswer_injective kind (hanswer'.symm.trans hanswer)
  obtain ⟨-, rfl⟩ := List.cons.inj (hsteps.unique hsteps')
  exact h

theorem quoted_ok_iff {content : String}
    : Quoted quote text taken (.ok content)
      ↔ ∃ written meant rest,
          Items quote written meant
          ∧ text = written ++ quote :: rest
          ∧ taken = written ++ [quote]
          ∧ content = String.ofList meant := by
  constructor
  · rintro ⟨items, closing⟩
    cases closing
    exact ⟨_, _, _, items, rfl, rfl, rfl⟩
  · rintro ⟨written, meant, rest, items, rfl, rfl, rfl⟩
    exact .intro items (.quote rest)

theorem quoted_unknownEscape_iff {key : Char} {content : String}
    : Quoted quote text taken (.error (.unknownEscape key content))
      ↔ ∃ written meant rest,
          Items quote written meant
          ∧ quote ≠ '\\'
          ∧ unescape? key = none
          ∧ text = written ++ '\\' :: key :: rest
          ∧ taken = written ++ ['\\', key]
          ∧ content = String.ofList meant := by
  constructor
  · rintro ⟨items, closing⟩
    cases closing with
    | unknown opens unlisted rest => exact ⟨_, _, _, items, opens, unlisted, rfl, rfl, rfl⟩
  · rintro ⟨written, meant, rest, items, opens, unlisted, rfl, rfl, rfl⟩
    exact .intro items (.unknown opens unlisted rest)

theorem quoted_unterminated_iff {content : String}
    : Quoted quote text taken (.error (.unterminatedString content))
      ↔ ∃ written meant,
          Items quote written meant
          ∧ (text = written ∨ quote ≠ '\\' ∧ text = written ++ ['\\'])
          ∧ taken = text
          ∧ content = String.ofList meant := by
  constructor
  · rintro ⟨items, closing⟩
    cases closing with
    | ended => exact ⟨_, _, items, .inl (by simp), rfl, rfl⟩
    | halfEscape opens => exact ⟨_, _, items, .inr ⟨opens, rfl⟩, rfl, rfl⟩
  · rintro ⟨written, meant, items, rfl | ⟨opens, rfl⟩, rfl, rfl⟩
    · simpa using Quoted.intro items .ended
    · exact .intro items (.halfEscape opens)

-----------------------------------------------------------------------------------------
-- Writing a text between quotes
-----------------------------------------------------------------------------------------

/-- How a text may be written between quotes of a usual kind: backslashes and both quotes behind a
backslash, and other characters as they are, or behind a backslash where there is an escape.
-/
inductive Escapes : List Char → List Char → Prop
  | nil : Escapes [] []
  | plain {c content written} (unescaped : c ∉ ['\\', '\'', '"'])
    (others : Escapes content written)
    : Escapes (c :: content) (c :: written)
  | escape {key c content written} (listed : unescape? key = some c)
    (others : Escapes content written)
    : Escapes (c :: content) ('\\' :: key :: written)

/-- Every text can be written so, with a backslash before what needs one. -/
theorem exists_escapes (content : List Char) : ∃ written, Escapes content written := by
  induction content with
  | nil => exact ⟨[], .nil⟩
  | cons c others ih =>
      obtain ⟨written, escapes⟩ := ih
      by_cases special : c ∈ ['\\', '\'', '"']
      · have listed : unescape? c = some c := by
          simp only [List.mem_cons, List.not_mem_nil, or_false] at special
          rcases special with rfl | rfl | rfl <;> rfl
        exact ⟨_, .escape listed escapes⟩
      · exact ⟨_, .plain special escapes⟩

/-- What is written so are items for the characters of the text. -/
theorem Escapes.items {content written : List Char} (escapes : Escapes content written)
    (usual : quote = '\'' ∨ quote = '"')
    : Items quote written content := by
  have opens : quote ≠ '\\' := by
    rcases usual with rfl | rfl <;> decide
  induction escapes with
  | nil => exact .nil
  | @plain c _ _ unescaped _ ih =>
      simp only [List.mem_cons, List.not_mem_nil, or_false, not_or] at unescaped
      have other : c ≠ quote := by
        rcases usual with rfl | rfl
        · exact unescaped.2.1
        · exact unescaped.2.2
      exact .cons (.plain other unescaped.1) ih
  | escape listed _ ih => exact .cons (.escape opens listed) ih

/-- Between quotes, what is written for a text is a token that holds the text. -/
theorem Escapes.tokenizeText {content written : List Char} (escapes : Escapes content written)
    (usual : quote = '\'' ∨ quote = '"') {kind : Kind} {recognizers : List Recognizer}
    (first
      : recognizers.find? (·.starts (quote :: (written ++ [quote])))
        = some (.quotedText quote kind))
    (name : String)
    : (Tokenizer.ofRecognizers recognizers).tokenizeText name
        (String.ofList (quote :: (written ++ [quote])))
      = .ok [⟨kind, .text (String.ofList content), some (Position.start name)⟩] := by
  have hquoted := (escapes.items usual).quotedAt (.quote [])
  apply Tokenizer.tokenizeText_of_whole
  · rw [String.toList_ofList, first]
  · simp [reading, hquoted, quotedAnswer, Nat.add_comm]

/-- Quoted text is read item by item. It is accepted where the quote comes behind the items, with
what they stand for; a backslash with a character that stands for nothing is an unknown escape; and
otherwise the text has run out, with or without a lone backslash. And every text has a spelling
between quotes of the usual kinds that is a token holding just that text.
-/
theorem quoted_text_follows_grammar (quote : Char) (kind : Kind)
    : (∀ (c : Cursor) (text : List Char),
        c.remaining = quote :: text
        → let answer := ((Recognizer.quotedText quote kind).consume.run c).1
          let after := ((Recognizer.quotedText quote kind).consume.run c).2
          (∀ content taken,
            answer = Rule.accept kind (.text content) ∧ c.StepsOver (quote :: taken) after
            ↔ ∃ written meant rest,
                Items quote written meant
                ∧ text = written ++ quote :: rest
                ∧ taken = written ++ [quote]
                ∧ content = String.ofList meant)
          ∧ (∀ key content taken,
            answer = Rule.reject (.unknownEscape key content)
              ∧ c.StepsOver (quote :: taken) after
            ↔ ∃ written meant rest,
                Items quote written meant
                ∧ quote ≠ '\\'
                ∧ unescape? key = none
                ∧ text = written ++ '\\' :: key :: rest
                ∧ taken = written ++ ['\\', key]
                ∧ content = String.ofList meant)
          ∧ (∀ content taken,
            answer = Rule.reject (.unterminatedString content)
              ∧ c.StepsOver (quote :: taken) after
            ↔ ∃ written meant,
                Items quote written meant
                ∧ (text = written ∨ quote ≠ '\\' ∧ text = written ++ ['\\'])
                ∧ taken = text
                ∧ content = String.ofList meant)
          ∧ ∃ taken,
              c.StepsOver (quote :: taken) after
              ∧ ((∃ content, answer = Rule.accept kind (.text content))
                ∨ (∃ key content, answer = Rule.reject (.unknownEscape key content))
                ∨ ∃ content, answer = Rule.reject (.unterminatedString content)))
      ∧ (quote = '\'' ∨ quote = '"'
        → ∀ content,
            (∃ written, Escapes content written)
            ∧ ∀ written,
                Escapes content written
                → ∀ recognizers,
                    recognizers.find? (·.starts (quote :: (written ++ [quote])))
                      = some (.quotedText quote kind)
                    → ∀ name,
                        (Tokenizer.ofRecognizers recognizers).tokenizeText name
                          (String.ofList (quote :: (written ++ [quote])))
                        = .ok
                            [⟨kind, .text (String.ofList content),
                              some (Position.start name)⟩]) := by
  constructor
  · intro c text opened
    refine ⟨?_, ?_, ?_, ?_⟩
    · intro content taken
      exact (consume_quotedText_iff opened kind).trans quoted_ok_iff
    · intro key content taken
      exact (consume_quotedText_iff opened kind).trans quoted_unknownEscape_iff
    · intro content taken
      exact (consume_quotedText_iff opened kind).trans quoted_unterminated_iff
    · obtain ⟨taken, outcome, quoted⟩ := exists_quoted quote text
      obtain ⟨hanswer, hsteps⟩ := (consume_quotedText_iff opened kind).2 quoted
      refine ⟨taken, hsteps, ?_⟩
      obtain ⟨-, closing⟩ := quoted
      cases closing with
      | quote rest => exact .inl ⟨_, hanswer⟩
      | unknown opens unlisted rest => exact .inr (.inl ⟨_, _, hanswer⟩)
      | ended => exact .inr (.inr ⟨_, hanswer⟩)
      | halfEscape opens => exact .inr (.inr ⟨_, hanswer⟩)
  · intro usual content
    refine ⟨exists_escapes content, ?_⟩
    intro written escapes recognizers first name
    exact escapes.tokenizeText usual first name

/-- An escaped quote and an escaped line feed inside a text: it is read up to the quote that closes
it, and what is written for it between quotes stands for it again.
-/
theorem quoted_greeting
    : (Cursor.ofText "notes" "\"say \\\"hi\\n\" twice").remaining
        = '"' :: "say \\\"hi\\n\" twice".toList
      ∧ ((Recognizer.quotedText '"' .string).consume.run
            (Cursor.ofText "notes" "\"say \\\"hi\\n\" twice")).1
        = Rule.accept .string (.text "say \"hi\n")
      ∧ (Tokenizer.ofRecognizers [.blank, .quotedText '"' .string]).tokenizeText "notes"
          "\"say \\\"hi\\n\""
        = .ok [⟨.string, .text "say \"hi\n", some ⟨"notes", 1, 1⟩⟩] := by
  obtain ⟨consuming, writing⟩ := quoted_text_follows_grammar '"' .string
  have opened : (Cursor.ofText "notes" "\"say \\\"hi\\n\" twice").remaining
      = '"' :: "say \\\"hi\\n\" twice".toList :=
    Cursor.remaining_ofText ..
  have escapes : Escapes "say \"hi\n".toList "say \\\"hi\\n".toList :=
    .plain (by decide) <| .plain (by decide) <| .plain (by decide) <| .plain (by decide)
      <| .escape rfl <| .plain (by decide) <| .plain (by decide) <| .escape rfl .nil
  have read := ((consuming _ _ opened).1 _ _).2
    ⟨_, _, " twice".toList, escapes.items (.inr rfl), rfl, rfl, rfl⟩
  have written := (writing (.inr rfl) _).2 _ escapes [.blank, .quotedText '"' .string] rfl "notes"
  exact ⟨opened, read.1, written⟩

end Lexical.Recognizer
