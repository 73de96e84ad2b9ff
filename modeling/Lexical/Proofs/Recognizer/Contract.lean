import Lexical.Proofs.Position
import Lexical.Proofs.Rule

/-! The contract of the recognizers: where one says that it can start, it consumes at least one
character, and what can go wrong is the fault of the input. While it consumes no counter of lines or
columns runs over, if none does along the input.
-/

namespace Lexical

/-- Whether the cause lies in the text that is tokenized: not in how rules are run, in tokens or in
a configuration.
-/
def Error.Cause.blamesText : Error.Cause → Bool
  | unexpectedCharacter _ | invalidNumber _ | unreadableNumber _ _ | unknownEscape _ _
  | unterminatedString _ => true
  | _ => false

-----------------------------------------------------------------------------------------
-- Characters that start something go on with it
-----------------------------------------------------------------------------------------

/-- The ASCII digits are the first range of the numerals. -/
theorem Text.isNumeral_of_isAsciiDigit {c : Char} (h : isAsciiDigit c) : isNumeral c := by
  simp only [isAsciiDigit, Bool.and_eq_true, decide_eq_true_eq] at h
  obtain ⟨hlow, hhigh⟩ := h
  have hlow : 0x30 ≤ c.toNat := hlow
  have hhigh : c.toNat ≤ 0x39 := hhigh
  rw [isNumeral, CharSet.contains, numerals, CharSet.covers, if_neg (by omega), if_pos hhigh]

/-- A match seen through windows is not empty and ends in the text, by induction over the windows.
-/
theorem Pattern.lengthWithin_bounds {pattern : Pattern} {window length : Nat} {text : List Char}
    (h : pattern.lengthWithin window text = some length)
    : 0 < length ∧ length ≤ text.length := by
  fun_induction Pattern.lengthWithin pattern window text with
  | case1 => cases h
  | case2 window found hseen hinside =>
      cases h
      obtain ⟨hpos, hle⟩ := Pattern.lexeme?_bounds hseen
      rw [List.length_take] at hle
      exact ⟨hpos, by omega⟩
  | case3 window found hseen houtside ih => exact ih h

-----------------------------------------------------------------------------------------
-- Readings that keep the contract
-----------------------------------------------------------------------------------------

/-- A reading that takes something, and that fails only for what the text is to blame for. -/
structure Reading.Sound (reading : Reading) : Prop where
  moves : 0 < reading.length
  fails
    : ∀ failure,
        reading.answer = .error failure
        → ∃ cause, failure = .error { cause } ∧ cause.blamesText

theorem Reading.sound_ok {token? : Option Token} {length : Nat} (h : 0 < length)
    : (⟨.ok token?, length⟩ : Reading).Sound where
  moves := h
  fails _ failed := by cases failed

theorem Reading.sound_reject {cause : Error.Cause} {length : Nat} (h : 0 < length)
    (blames : cause.blamesText)
    : (⟨Rule.reject cause, length⟩ : Reading).Sound where
  moves := h
  fails _ failed := by
    cases failed
    exact ⟨cause, rfl, blames⟩

namespace Recognizer

theorem isWordPart_of_isWordStart {c : Char} (h : isWordStart c) : isWordPart c := by
  simp only [isWordStart, isWordPart, Text.isAlphanumeric, Bool.or_eq_true] at h ⊢
  exact h.imp_left Or.inl

theorem isNumberPart_of_isAsciiDigit {c : Char} (h : Text.isAsciiDigit c) : isNumberPart c := by
  simp [isNumberPart, Text.isAlphanumeric, Text.isNumeral_of_isAsciiDigit h]

theorem length_pos_of_startsNumber {text : List Char} (h : startsNumber text)
    : 0 < (writtenAt text).2 := by
  cases text with
  | nil => cases h
  | cons c rest =>
      rw [writtenAt]
      split
      · exact Nat.add_pos_left Nat.two_pos _
      · simp only [startsNumber, Bool.or_eq_true, Bool.and_eq_true] at h
        rcases h with digit | ⟨sign, -⟩
        · cases hsign : isSign c with
          | false => simp [hsign, isNumberPart_of_isAsciiDigit digit]
          | true =>
              simp only [hsign, List.head?_cons, Option.any_some, if_true]
              exact Nat.add_pos_left Nat.one_pos _
        · simp only [sign, List.head?_cons, Option.any_some, if_true]
          exact Nat.add_pos_left Nat.one_pos _

/-- A number that cannot be read is blamed on the text, whether digits are missing or wrong. -/
theorem blamesText_of_value {number : Written} {cause : Error.Cause}
    (h : number.value = .error cause)
    : cause.blamesText := by
  unfold Written.value at h
  split at h
  · cases h
    rfl
  · split at h
    · split at h
      · cases h
      · cases h
        rfl
    · split at h
      · cases h
      · cases h
        rfl

/-- A character that ends quoted text with an error is an unknown escape, and none is left
unread.
-/
theorem quotedMove_spec (quote : Char) (state : QuotedState) (c : Char)
    : (∀ result, quotedMove quote state c ≠ .leave result)
      ∧ ∀ cause, quotedMove quote state c = .last (.error cause) → cause.blamesText := by
  unfold quotedMove
  split
  · split
    · simp
    · constructor
      · simp
      · intro cause h
        cases h
        rfl
  · split
    · simp
    · split <;> simp

/-- Quoted text fails for an escape or for its end only, by induction over the text with what
was read so far as the state.
-/
theorem blamesText_of_quoted {quote : Char} {state : QuotedState} {text : List Char}
    {cause : Error.Cause}
    (h
      : (Cursor.walkText (quotedMove quote)
          (fun state => .error (.unterminatedString state.text)) state text).1
        = .error cause)
    : cause.blamesText := by
  induction text generalizing state with
  | nil =>
      cases h
      rfl
  | cons c rest ih =>
      rw [Cursor.walkText] at h
      split at h
      · next result hmove => exact ((quotedMove_spec quote state c).1 result hmove).elim
      · exact ih h
      · next result hmove =>
          have hresult : result = .error cause := h
          rw [hresult] at hmove
          exact (quotedMove_spec quote state c).2 cause hmove

/-- A fixed text that begins the text is what both have in common. -/
theorem sharedLength_of_isPrefixOf {first second : List Char} (h : first.isPrefixOf second)
    : sharedLength first second = first.length := by
  induction first generalizing second with
  | nil => rfl
  | cons a rest ih =>
      cases second with
      | nil => cases h
      | cons b others =>
          simp only [List.isPrefixOf, Bool.and_eq_true, beq_iff_eq] at h
          rw [sharedLength_cons_cons, if_pos h.1, ih h.2, List.length_cons]

/-- Where a recognizer can start there is something, since no fixed text and no match is empty. -/
theorem ne_nil_of_starts {recognizer : Recognizer} {text : List Char}
    (h : recognizer.starts text)
    : text ≠ [] := by
  rintro rfl
  cases recognizer with
  | literal kind content nonempty =>
      have hprefix := List.isPrefixOf_iff_prefix.1 h
      exact nonempty (String.toList_eq_nil_iff.1 (List.prefix_nil.1 hprefix))
  | lineComment mark nonempty =>
      have hprefix := List.isPrefixOf_iff_prefix.1 h
      exact nonempty (String.toList_eq_nil_iff.1 (List.prefix_nil.1 hprefix))
  | pattern kind? expression window =>
      obtain ⟨length, hlength⟩ := Option.isSome_iff_exists.1 h
      obtain ⟨hpos, hle⟩ := Pattern.lengthWithin_bounds hlength
      exact absurd hpos (Nat.not_lt.2 hle)
  | _ => cases h

/-- Where a recognizer can start, what it makes of the text is sound: the test for the start and
the way the text is consumed agree, recognizer by recognizer.
-/
theorem reading_sound {recognizer : Recognizer} {text : List Char} (place : Position)
    (h : recognizer.starts text)
    : (recognizer.reading place text).Sound := by
  cases recognizer with
  | blank =>
      cases text with
      | nil => cases h
      | cons c rest =>
          have hblank : Text.isBlank c := h
          rw [reading, blankReading, if_pos hblank]
          exact Reading.sound_ok Nat.one_pos
  | word kind keywords =>
      cases text with
      | nil => cases h
      | cons c rest =>
          have hpart : isWordPart c := isWordPart_of_isWordStart h
          rw [reading, wordReading, List.takeWhile_cons_of_pos hpart]
          exact Reading.sound_ok (Nat.succ_pos _)
  | number integerKind floatKind =>
      have hpos := length_pos_of_startsNumber h
      simp only [reading, numberAnswer]
      split
      · next cause hvalue => exact Reading.sound_reject hpos (blamesText_of_value hvalue)
      · exact Reading.sound_ok hpos
      · exact Reading.sound_ok hpos
  | quotedText quote kind =>
      have hpos := Nat.add_pos_left Nat.one_pos (quotedAt quote (text.drop 1)).2
      show Reading.Sound ⟨quotedAnswer kind (quotedAt quote (text.drop 1)).1, _⟩
      rcases hcontent : (quotedAt quote (text.drop 1)).1 with cause | content
      · exact Reading.sound_reject hpos (blamesText_of_quoted hcontent)
      · exact Reading.sound_ok hpos
  | rune kind character =>
      have hhead : text.head? = some character := beq_iff_eq.1 h
      rw [reading, if_pos hhead]
      exact Reading.sound_ok Nat.one_pos
  | literal kind content nonempty =>
      have hshared := sharedLength_of_isPrefixOf h
      have hpos : 0 < content.length :=
        Nat.pos_of_ne_zero (mt String.length_eq_zero_iff.1 nonempty)
      rw [reading, literalReading, hshared, String.length_toList, if_pos rfl]
      exact Reading.sound_ok hpos
  | lineComment mark nonempty =>
      have hpos : 0 < mark.length :=
        Nat.pos_of_ne_zero (mt String.length_eq_zero_iff.1 nonempty)
      exact Reading.sound_ok (Nat.add_pos_left hpos _)
  | pattern kind? expression window =>
      obtain ⟨length, hlength⟩ := Option.isSome_iff_exists.1 h
      have hpos := (Pattern.lengthWithin_bounds hlength).1
      simp only [reading, patternReading, hlength]
      cases kind? with
      | none => exact Reading.sound_ok hpos
      | some kind => exact Reading.sound_ok hpos

end Recognizer

-----------------------------------------------------------------------------------------
-- Rules that keep the contract
-----------------------------------------------------------------------------------------

/-- Where no counter runs over along what remains, none does along a step. -/
theorem Cursor.StepsOver.counted {c d : Cursor} {taken : List Char} (h : c.StepsOver taken d)
    (counts : c.origin.CountsOver c.remaining)
    : c.origin.advanceOver? taken = some d.origin := by
  rw [h.remaining] at counts
  rw [counts.split.1, h.origin]

/-- What a rule owes its caller at a cursor: that asking whether it can start only looks, and that
where it can, consuming on the cursor that was asked takes something and fails, if at all, with an
error that the text is to blame for. What it takes is counted in 32 bits wherever what remains is.
-/
structure Rule.KeepsContract (rule : Rule) (c : Cursor) : Prop where
  looks : c.Resembles (rule.canStart.run c).2
  moves
    : (rule.canStart.run c).1
      → ∃ taken,
          taken ≠ []
          ∧ (rule.canStart.run c).2.StepsOver taken
              (rule.consume.run (rule.canStart.run c).2).2
          ∧ (c.origin.CountsOver c.remaining
            → c.origin.advanceOver? taken
              = some (rule.consume.run (rule.canStart.run c).2).2.origin)
  fails
    : (rule.canStart.run c).1
      → ∀ failure,
          (rule.consume.run (rule.canStart.run c).2).1 = .error failure
          → ∃ error, failure = .error error ∧ error.cause.blamesText

theorem Recognizer.toRule_keepsContract (recognizer : Recognizer) (c : Cursor)
    : recognizer.toRule.KeepsContract c := by
  have hlooks := recognizer.toRule_onlyLooks c
  have hasked : (recognizer.canStart.run c).1 = recognizer.starts c.remaining := by
    rw [Scan.fst_run, onView_canStart, Cursor.remaining_view]
  have hshown : (recognizer.canStart.run c).2.view = c.view := hlooks.view
  have hconsume := recognizer.consume.onView_view (recognizer.canStart.run c).2
  rw [onView_consume, hshown] at hconsume
  obtain ⟨hanswer, hview⟩ := Prod.mk.inj hconsume
  refine ⟨hlooks, ?_, ?_⟩
  · intro hstarts
    have starts : recognizer.starts c.remaining := hasked ▸ hstarts
    obtain ⟨taken, hsteps⟩ := recognizer.consume.reaches (recognizer.canStart.run c).2
    refine ⟨taken, ?_, hsteps, (hlooks.stepsOver.trans hsteps).counted⟩
    rintro rfl
    -- The count has grown by what the reading takes, so that it takes something of something.
    have hsame : (c.view.skip (recognizer.reading c.origin c.remaining).length).consumed
        = c.consumed :=
      (congrArg View.consumed hview).trans (hsteps.consumed.trans hlooks.consumed)
    have hmoves := (reading_sound c.origin starts).moves
    have hlength := List.length_pos_iff.2 (ne_nil_of_starts starts)
    simp only [View.skip, List.length_take, Cursor.remaining_view, Cursor.consumed_view] at hsame
    omega
  · intro hstarts failure hfailure
    have starts : recognizer.starts c.remaining := hasked ▸ hstarts
    obtain ⟨cause, rfl, hblames⟩ :=
      (reading_sound c.origin starts).fails failure (hanswer.trans hfailure)
    exact ⟨_, rfl, hblames⟩

end Lexical
