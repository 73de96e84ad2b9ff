import Lexical.Proofs.Recognizer.Lexeme
import Lexical.Proofs.Text.Blank
import Mathlib.Data.List.Basic

/-! Blanks as separators. Where a text is complete, a blank behind it and whatever comes after that
make no difference to what a recognizer sees in the text. This holds for all recognizers but
patterns and the fixed texts that have a blank in them, and but for comments at the end of the text,
which go on unless the blank is a line feed.
-/

namespace Lexical

/-- A walk that is complete before the text ends does not see what comes behind the text, by
induction over the text.
-/
theorem Cursor.walkText_append {σ : Type u} {α : Type v} {move : σ → Char → Move σ α}
    {atEnd : σ → α} {state : σ} {text : List Char}
    (complete : ∀ last, (walkText move atEnd state text).1 ≠ atEnd last) (more : List Char)
    : walkText move atEnd state (text ++ more) = walkText move atEnd state text := by
  induction text generalizing state with
  | nil => exact (complete state rfl).elim
  | cons c rest ih =>
      rw [List.cons_append]
      cases hmove : move state c with
      | leave result => simp only [walkText, hmove]
      | take next =>
          simp only [walkText, hmove] at complete ⊢
          rw [ih complete]
      | last result => simp only [walkText, hmove]

namespace Recognizer

/-- Whether the recognizer takes what is left of a line, and so blanks too. -/
def takesLine : Recognizer → Bool
  | lineComment _ _ => true
  | _ => false

/-- What the recognizer sees in a text is not changed by a blank behind it: whether it starts, and
what it takes where it does and succeeds. If it takes what is left of a line, then the blank has to
be a line feed, or to be on a later line.
-/
structure HeedsBlanks (recognizer : Recognizer) : Prop where
  starts
    : ∀ {text}, text ≠ [] → ∀ {blank}, Text.isBlank blank → ∀ more,
        recognizer.starts (text ++ blank :: more) = recognizer.starts text
  reading
    : ∀ {place text token?},
        recognizer.starts text
        → (recognizer.reading place text).answer = .ok token?
        → ∀ {blank},
            Text.isBlank blank
            → (recognizer.takesLine
              → blank = '\n' ∨ (recognizer.reading place text).length < text.length)
            → ∀ more,
                recognizer.reading place (text ++ blank :: more) = recognizer.reading place text

/-- What the recognizer sees in a text is not changed by a line feed behind it: whether it starts,
and what it takes where it does and succeeds.
-/
structure HeedsLineFeeds (recognizer : Recognizer) : Prop where
  starts
    : ∀ {text}, text ≠ [] → ∀ more,
        recognizer.starts (text ++ '\n' :: more) = recognizer.starts text
  reading
    : ∀ {place text token?},
        recognizer.starts text
        → (recognizer.reading place text).answer = .ok token?
        → ∀ more,
            recognizer.reading place (text ++ '\n' :: more) = recognizer.reading place text

/-- Line feeds are blanks, and even comments end at them. -/
theorem HeedsBlanks.heedsLineFeeds {recognizer : Recognizer} (h : recognizer.HeedsBlanks)
    : recognizer.HeedsLineFeeds where
  starts some more := h.starts some rfl more
  reading starts answer more := h.reading starts answer rfl (fun _ => .inl rfl) more

-----------------------------------------------------------------------------------------
-- What blanks end
-----------------------------------------------------------------------------------------

variable {blank : Char}

theorem isWordPart_of_isBlank (isBlank : Text.isBlank blank) : isWordPart blank = false := by
  have hunderscore := beq_false_of_ne (Text.ne_of_isBlank isBlank (rfl : Text.isBlank '_' = false))
  rw [isWordPart, Text.isAlphanumeric_of_isBlank isBlank, hunderscore, Bool.or_self]

theorem isNumberPart_of_isBlank (isBlank : Text.isBlank blank) : isNumberPart blank = false := by
  have hunderscore := beq_false_of_ne (Text.ne_of_isBlank isBlank (rfl : Text.isBlank '_' = false))
  have hpoint := beq_false_of_ne (Text.ne_of_isBlank isBlank (rfl : Text.isBlank '.' = false))
  rw [isNumberPart, Text.isAlphanumeric_of_isBlank isBlank, hunderscore, hpoint, Bool.or_self,
    Bool.or_self]

theorem announcedBase?_of_isBlank (isBlank : Text.isBlank blank)
    : announcedBase? blank = none := by
  unfold announcedBase?
  split
  · cases isBlank
  · cases isBlank
  · cases isBlank
  · rfl

/-- A run of characters ends before one that fails the test, if it has not ended earlier. -/
theorem takeWhile_append_stop {test : Char → Bool} {stop : Char} (stops : test stop = false)
    (text more : List Char)
    : (text ++ stop :: more).takeWhile test = text.takeWhile test := by
  induction text with
  | nil => exact List.takeWhile_cons_of_neg (by rw [stops]; exact Bool.false_ne_true)
  | cons c rest ih =>
      rw [List.cons_append, List.takeWhile_cons, List.takeWhile_cons, ih]

/-- A word without a character begins the text alone if it begins the text and that character and
more.
-/
theorem isPrefixOf_append_stop {word : List Char} {stop : Char} (unbroken : stop ∉ word)
    (text more : List Char)
    : word.isPrefixOf (text ++ stop :: more) = word.isPrefixOf text := by
  induction word generalizing text with
  | nil => rfl
  | cons c rest ih =>
      simp only [List.mem_cons, not_or] at unbroken
      obtain ⟨hc, hrest⟩ := unbroken
      cases text with
      | nil => simp [List.isPrefixOf, Ne.symm hc]
      | cons d others => rw [List.cons_append, List.isPrefixOf, List.isPrefixOf, ih hrest]

-----------------------------------------------------------------------------------------
-- Recognizer by recognizer
-----------------------------------------------------------------------------------------

theorem heedsBlanks_blank : Recognizer.blank.HeedsBlanks where
  starts {text} some _ _ more := by
    simp only [Recognizer.starts, List.head?_append_of_ne_nil _ some]
  reading {place text token?} starts _ _ _ _ more := by
    obtain ⟨c, rest, rfl⟩ := List.exists_cons_of_ne_nil (ne_nil_of_starts starts)
    rfl

theorem heedsBlanks_word (kind : Kind) (keywords : List (String × Kind))
    : (word kind keywords).HeedsBlanks where
  starts {text} some _ _ more := by
    simp only [Recognizer.starts, List.head?_append_of_ne_nil _ some]
  reading {place text token?} _ _ blank isBlank _ more := by
    have hword := takeWhile_append_stop (isWordPart_of_isBlank isBlank) text more
    simp only [Recognizer.reading, wordReading, hword]

theorem announcedAt?_append_blank (isBlank : Text.isBlank blank) {text : List Char}
    (some : text ≠ []) (more : List Char)
    : announcedAt? (text ++ blank :: more) = announcedAt? text := by
  match text with
  | [] => exact (some rfl).elim
  | [c] =>
      by_cases h : c = '0'
      · subst h
        exact announcedBase?_of_isBlank isBlank
      · simp [announcedAt?, h]
  | c :: d :: rest => rfl

/-- A number is as before, since a blank announces no base and does not go on with a number. -/
theorem writtenAt_append_blank (isBlank : Text.isBlank blank) {text : List Char}
    (some : text ≠ []) (more : List Char)
    : writtenAt (text ++ blank :: more) = writtenAt text := by
  have hannouncedAt := announcedAt?_append_blank isBlank some more
  have hbody (count : Nat) (inside : count ≤ text.length)
      : ((text ++ blank :: more).drop count).takeWhile isNumberPart
        = (text.drop count).takeWhile isNumberPart := by
    rw [List.drop_append_of_le_length inside]
    exact takeWhile_append_stop (isNumberPart_of_isBlank isBlank) _ _
  cases hannounced : announcedAt? text with
  | some base =>
      have htwo := two_le_length_of_announcedAt? hannounced
      simp only [writtenAt, hannouncedAt, hannounced, hbody 2 htwo,
        List.take_append_of_le_length htwo]
  | none =>
      obtain ⟨c, rest, rfl⟩ := List.exists_cons_of_ne_nil some
      have hsign : (if (c :: rest).head?.any isSign then (c :: rest).take 1 else []).length
          ≤ (c :: rest).length := by
        split
        · exact List.length_take_le' 1 _
        · exact Nat.zero_le _
      have hsame : (if (c :: rest ++ blank :: more).head?.any isSign
            then (c :: rest ++ blank :: more).take 1 else [])
          = (if (c :: rest).head?.any isSign then (c :: rest).take 1 else []) := rfl
      simp only [writtenAt, hannouncedAt, hannounced, hsame, hbody _ hsign]

theorem heedsBlanks_number (integerKind floatKind : Kind)
    : (number integerKind floatKind).HeedsBlanks where
  starts {text} some blank isBlank more := by
    match text with
    | [] => exact (some rfl).elim
    | [c] =>
        simp only [Recognizer.starts, startsNumber, List.cons_append, List.nil_append,
          List.head?_cons, List.head?_nil, Option.any_some, Option.any_none,
          Text.isAsciiDigit_of_isBlank isBlank]
    | c :: d :: rest => rfl
  reading {place text token?} starts _ blank isBlank _ more := by
    simp only [Recognizer.reading, writtenAt_append_blank isBlank (ne_nil_of_starts starts)]

/-- Quoted text that is complete has its closing quote, which the blank comes after. -/
theorem heedsBlanks_quotedText (quote : Char) (kind : Kind)
    : (quotedText quote kind).HeedsBlanks where
  starts {text} some _ _ more := by
    simp only [Recognizer.starts, List.head?_append_of_ne_nil _ some]
  reading {place text token?} starts answer blank _ _ more := by
    obtain ⟨c, rest, rfl⟩ := List.exists_cons_of_ne_nil (ne_nil_of_starts starts)
    have answer : quotedAnswer kind (quotedAt quote rest).1 = .ok token? := answer
    have hquoted : quotedAt quote (rest ++ blank :: more) = quotedAt quote rest := by
      apply Cursor.walkText_append
      intro last unterminated
      rw [quotedAt, unterminated] at answer
      cases answer
    simp only [Recognizer.reading, List.cons_append, List.drop_one, List.tail_cons, hquoted]

theorem heedsBlanks_rune (kind : Kind) (character : Char)
    : (rune kind character).HeedsBlanks where
  starts {text} some _ _ more := by
    simp only [Recognizer.starts, List.head?_append_of_ne_nil _ some]
  reading {place text token?} starts _ _ _ _ more := by
    obtain ⟨c, rest, rfl⟩ := List.exists_cons_of_ne_nil (ne_nil_of_starts starts)
    rfl

theorem blank_notMem {text : List Char} (unbroken : text.any Text.isBlank = false)
    (isBlank : Text.isBlank blank)
    : blank ∉ text := by
  intro member
  exact List.any_eq_false.1 unbroken blank member isBlank

theorem heedsBlanks_literal {kind : Kind} {content : String} (nonempty : content ≠ "")
    (unbroken : content.toList.any Text.isBlank = false)
    : (literal kind content nonempty).HeedsBlanks where
  starts {text} _ _ isBlank more := isPrefixOf_append_stop (blank_notMem unbroken isBlank) text more
  reading {place text token?} starts _ blank isBlank _ more := by
    have hlonger : content.toList.isPrefixOf (text ++ blank :: more) := by
      rw [isPrefixOf_append_stop (blank_notMem unbroken isBlank)]
      exact starts
    simp only [Recognizer.reading, literalReading, sharedLength_of_isPrefixOf starts,
      sharedLength_of_isPrefixOf hlonger, String.length_toList, if_true]

/-- A run of characters that ends inside the text ends there whatever comes behind it. -/
theorem takeWhile_append_of_length_lt {test : Char → Bool} {text : List Char}
    (inside : (text.takeWhile test).length < text.length) (more : List Char)
    : (text ++ more).takeWhile test = text.takeWhile test := by
  rw [List.takeWhile_append, if_neg (Nat.ne_of_lt inside)]

theorem heedsBlanks_lineComment {mark : String} (nonempty : mark ≠ "")
    (unbroken : mark.toList.any Text.isBlank = false)
    : (lineComment mark nonempty).HeedsBlanks where
  starts {text} _ _ isBlank more := isPrefixOf_append_stop (blank_notMem unbroken isBlank) text more
  reading {place text token?} starts _ blank _ ends more := by
    have hmark := (List.isPrefixOf_iff_prefix.1 starts).length_le
    rw [String.length_toList] at hmark
    have hbody : (text.drop mark.length ++ blank :: more).takeWhile (· != '\n')
        = (text.drop mark.length).takeWhile (· != '\n') := by
      rcases ends rfl with rfl | inside
      · exact takeWhile_append_stop rfl _ _
      · apply takeWhile_append_of_length_lt
        simp only [Recognizer.reading, commentReading] at inside
        rw [List.length_drop]
        omega
    simp only [Recognizer.reading, commentReading, List.drop_append_of_le_length hmark, hbody]

end Recognizer

end Lexical
