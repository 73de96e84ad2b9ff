import Lexical.Proofs.Recognizer.Contract

/-! Keywords. They are looked up when a word has been taken, so that they settle the kind of its
token and nothing else: where more words are keywords, recognizers start at the same texts and take
the same characters, and only the kinds of those words are others.
-/

namespace Lexical.Recognizer

-----------------------------------------------------------------------------------------
-- Looking keywords up
-----------------------------------------------------------------------------------------

/-- A keyword is found where it is listed, with itself as its kind. -/
theorem lookup_keywords (keywords : List String) (word : String)
    : (keywords.map fun keyword => (keyword, (⟨keyword⟩ : Kind))).lookup word
      = if word ∈ keywords then some ⟨word⟩ else none := by
  induction keywords with
  | nil => rfl
  | cons keyword keywords ih =>
      rw [List.map_cons, List.lookup_cons, ih]
      by_cases same : word = keyword
      · rw [same, beq_self_eq_true, if_pos List.mem_cons_self]
      · rw [beq_eq_false_iff_ne.2 same]
        simp only [List.mem_cons, same, false_or]

/-- Keywords that are looked up alike make the same rule. -/
theorem toRule_word_eq (kind : Kind) {keywords others : List (String × Kind)}
    (alike : ∀ word, others.lookup word = keywords.lookup word)
    : (word kind others).toRule = (word kind keywords).toRule := by
  simp only [toRule, consume, consumeWord, alike]
  rfl

-----------------------------------------------------------------------------------------
-- Learning keywords
-----------------------------------------------------------------------------------------

/-- Whether the recognizer is one of words. -/
def isWord : Recognizer → Bool
  | word _ _ => true
  | _ => false

/-- The recognizer with further keywords, if it is one of words. -/
def learn (extra : List String) : Recognizer → Recognizer
  | word kind keywords => word kind (keywords ++ extra.map fun keyword => (keyword, ⟨keyword⟩))
  | other => other

/-- The keywords of the recognizer are the given ones if it is one of words. -/
def Knows (keywords : List String) : Recognizer → Prop
  | word kind table =>
    kind = .identifier ∧ table = keywords.map fun keyword => (keyword, ⟨keyword⟩)
  | _ => True

/-- The kind of a word where the given words are keywords. -/
def wordKind (keywords : List String) (word : String) : Kind :=
  if word ∈ keywords then ⟨word⟩ else .identifier

/-- The token that the recognizer makes of a lexeme when it has learned further keywords, for the
one that it makes before: words that have become keywords are of their own kind.
-/
def relabel (recognizer : Recognizer) (keywords extra : List String) (lexeme : List Char)
    (token : Token)
    : Token :=
  if recognizer.isWord ∧ String.ofList lexeme ∈ extra ∧ String.ofList lexeme ∉ keywords then
    { token with kind := ⟨String.ofList lexeme⟩ }
  else token

variable {recognizer : Recognizer} {keywords extra : List String}

theorem learn_eq_self (other : recognizer.isWord = false)
    : recognizer.learn extra = recognizer := by
  cases recognizer with
  | word kind table => cases other
  | _ => rfl

theorem knows_of_isWord_eq_false (other : recognizer.isWord = false)
    : recognizer.Knows keywords := by
  cases recognizer with
  | word kind table => cases other
  | _ => trivial

theorem relabel_eq_self (other : recognizer.isWord = false) (lexeme : List Char) (token : Token)
    : recognizer.relabel keywords extra lexeme token = token := by
  rw [relabel, other, if_neg (fun both => Bool.false_ne_true both.1)]

theorem isWord_learn : (recognizer.learn extra).isWord = recognizer.isWord := by
  cases recognizer <;> rfl

@[simp] theorem name_learn : (recognizer.learn extra).name = recognizer.name := by
  cases recognizer <;> rfl

@[simp] theorem starts_learn (text : List Char)
    : (recognizer.learn extra).starts text = recognizer.starts text := by
  cases recognizer <;> rfl

/-- The place of a token has nothing to do with its kind. -/
theorem relabel_orAt (lexeme : List Char) (token : Token) (place : Position)
    : recognizer.relabel keywords extra lexeme (token.orAt place)
      = (recognizer.relabel keywords extra lexeme token).orAt place := by
  unfold relabel
  split <;> rfl

/-- A word is the longest run of word characters, and of the kind that the keywords say. -/
theorem reading_word (keywords : List String) (place : Position) (text : List Char)
    : (word .identifier (keywords.map fun keyword => (keyword, ⟨keyword⟩))).reading place text
      = ⟨if (text.takeWhile isWordPart).isEmpty then Rule.reject .emptyIdentifier
          else
            Rule.accept (wordKind keywords (String.ofList (text.takeWhile isWordPart)))
              (.text (String.ofList (text.takeWhile isWordPart))),
          (text.takeWhile isWordPart).length⟩ := by
  have hkind (word : String)
      : ((keywords.map fun keyword => (keyword, (⟨keyword⟩ : Kind))).lookup word).getD .identifier
        = wordKind keywords word := by
    rw [lookup_keywords, wordKind]
    split <;> rfl
  simp only [reading, wordReading, hkind]

/-- The label of a word is the kind that it has with all the keywords. -/
theorem relabel_word (kind : Kind) (table : List (String × Kind)) (lexeme : List Char)
    (value : Value) (origin? : Option Position)
    : (word kind table).relabel keywords extra lexeme
        ⟨wordKind keywords (String.ofList lexeme), value, origin?⟩
      = ⟨wordKind (keywords ++ extra) (String.ofList lexeme), value, origin?⟩ := by
  simp only [relabel, isWord, true_and, wordKind, List.mem_append]
  by_cases known : String.ofList lexeme ∈ keywords <;>
    by_cases learned : String.ofList lexeme ∈ extra <;> simp [known, learned]

/-- With further keywords a recognizer takes the same characters, and answers with the token as it
is then labelled.
-/
theorem reading_learn (knows : recognizer.Knows keywords) (extra : List String)
    (place : Position) (text : List Char)
    : (recognizer.learn extra).reading place text
      = ⟨(recognizer.reading place text).answer.map
          (Option.map (recognizer.relabel keywords extra
            (text.take (recognizer.reading place text).length))),
          (recognizer.reading place text).length⟩ := by
  cases hword : recognizer.isWord with
  | false =>
      have hsame : recognizer.relabel keywords extra
          (text.take (recognizer.reading place text).length) = id :=
        funext (relabel_eq_self hword _)
      rw [learn_eq_self hword, hsame, Option.map_id]
      exact congrArg (Reading.mk · _) (id_map (recognizer.reading place text).answer).symm
  | true =>
      cases recognizer with
      | word kind table =>
          obtain ⟨rfl, rfl⟩ := knows
          have hlexeme : text.take (text.takeWhile isWordPart).length = text.takeWhile isWordPart :=
            (List.prefix_iff_eq_take.1 (List.takeWhile_prefix _)).symm
          rw [learn, ← List.map_append, reading_word, reading_word, hlexeme]
          cases hempty : (text.takeWhile isWordPart).isEmpty with
          | true => rfl
          | false =>
              simp only [Bool.false_eq_true, if_false, Rule.accept, Except.map, Option.map_some,
                relabel_word]
      | _ => cases hword

end Lexical.Recognizer
