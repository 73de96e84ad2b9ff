import Lexical.Proofs.Recognizer.Contract

/-! What a recognizer takes where it can start: a piece of the text and nothing behind it, the same
wherever in a source the text stands. Words, fixed texts and matches of patterns become tokens that
hold the piece as it is written.
-/

namespace Lexical

/-- A walk consumes no more than there is, by induction over the text. -/
theorem Cursor.walkText_le {σ : Type u} {α : Type v} (move : σ → Char → Move σ α)
    (atEnd : σ → α) (state : σ) (text : List Char)
    : (walkText move atEnd state text).2 ≤ text.length := by
  induction text generalizing state with
  | nil => exact Nat.le_refl 0
  | cons c rest ih =>
      rw [walkText, List.length_cons]
      split
      · exact Nat.zero_le _
      · next next hmove => exact Nat.succ_le_succ (ih next)
      · exact Nat.le_add_left ..

namespace Recognizer

-----------------------------------------------------------------------------------------
-- A piece of the text
-----------------------------------------------------------------------------------------

theorem two_le_length_of_announcedAt? {text : List Char} {base : Nat}
    (h : announcedAt? text = some base)
    : 2 ≤ text.length := by
  match text with
  | [] => cases h
  | [c] => simp [announcedAt?] at h
  | c :: d :: rest => exact Nat.le_add_left ..

theorem length_writtenAt_le (text : List Char) : (writtenAt text).2 ≤ text.length := by
  have hbody (count : Nat)
      : ((text.drop count).takeWhile isNumberPart).length ≤ text.length - count := by
    have hle := (List.takeWhile_sublist (p := isNumberPart) (l := text.drop count)).length_le
    rwa [List.length_drop] at hle
  cases hannounced : announcedAt? text with
  | some base =>
      have htwo := two_le_length_of_announcedAt? hannounced
      have hle := hbody 2
      simp only [writtenAt, hannounced]
      omega
  | none =>
      have hsign : (if text.head?.any isSign then text.take 1 else []).length ≤ text.length := by
        split
        · exact List.length_take_le' 1 text
        · exact Nat.zero_le _
      have hle := hbody (if text.head?.any isSign then text.take 1 else []).length
      simp only [writtenAt, hannounced]
      omega

/-- A recognizer takes no more than there is, recognizer by recognizer. -/
theorem length_reading_le {recognizer : Recognizer} {text : List Char}
    (starts : recognizer.starts text) (place : Position)
    : (recognizer.reading place text).length ≤ text.length := by
  have hsome := List.length_pos_iff.2 (ne_nil_of_starts starts)
  cases recognizer with
  | blank =>
      cases text with
      | nil => exact (Nat.lt_irrefl 0 hsome).elim
      | cons c rest =>
          rw [reading, blankReading]
          split <;> exact hsome
  | word kind keywords => exact (List.takeWhile_sublist _).length_le
  | number integerKind floatKind => exact length_writtenAt_le text
  | quotedText quote kind =>
      have hle := Cursor.walkText_le (quotedMove quote)
        (fun state => .error (.unterminatedString state.text)) {} (text.drop 1)
      rw [List.length_drop] at hle
      simp only [reading, quotedAt]
      omega
  | rune kind character => exact hsome
  | literal kind content nonempty =>
      have hle := (List.isPrefixOf_iff_prefix.1 starts).length_le
      have hshared := sharedLength_of_isPrefixOf starts
      rw [reading, literalReading, hshared, String.length_toList, if_pos rfl]
      rwa [String.length_toList] at hle
  | lineComment mark nonempty =>
      have hle := (List.isPrefixOf_iff_prefix.1 starts).length_le
      have hbody :=
        (List.takeWhile_sublist (p := (· != '\n')) (l := text.drop mark.length)).length_le
      rw [String.length_toList] at hle
      rw [List.length_drop] at hbody
      simp only [reading, commentReading]
      omega
  | pattern kind? expression window =>
      obtain ⟨length, hlength⟩ := Option.isSome_iff_exists.1 starts
      have hle := (Pattern.lengthWithin_bounds hlength).2
      cases kind? <;> simpa only [reading, patternReading, hlength, Option.getD_some] using hle

-----------------------------------------------------------------------------------------
-- Wherever the text stands
-----------------------------------------------------------------------------------------

/-- Where a recognizer can start, the place is of no account: only a character that is no blank
would be reported with it, and only by the recognizer of blanks.
-/
theorem reading_eq_of_starts {recognizer : Recognizer} {text : List Char}
    (starts : recognizer.starts text) (place other : Position)
    : recognizer.reading place text = recognizer.reading other text := by
  cases recognizer with
  | blank =>
      cases text with
      | nil => cases starts
      | cons c rest =>
          have hblank : Text.isBlank c := starts
          simp only [reading, blankReading, if_pos hblank]
  | _ => rfl

/-- Recognizers leave it to the tokenizer to say where a token stands. -/
theorem origin?_of_reading {recognizer : Recognizer} {place : Position} {text : List Char}
    {token : Token} (answered : (recognizer.reading place text).answer = .ok (some token))
    : token.origin? = none := by
  cases recognizer with
  | blank =>
      cases text with
      | nil => cases answered
      | cons c rest =>
          rw [reading, blankReading] at answered
          split at answered <;> cases answered
  | word kind keywords =>
      simp only [reading, wordReading] at answered
      split at answered <;> cases answered
      rfl
  | number integerKind floatKind =>
      simp only [reading, numberAnswer] at answered
      split at answered <;> cases answered <;> rfl
  | quotedText quote kind =>
      have answered : quotedAnswer kind (quotedAt quote (text.drop 1)).1 = .ok (some token) :=
        answered
      unfold quotedAnswer at answered
      split at answered <;> cases answered
      rfl
  | rune kind character =>
      simp only [reading] at answered
      split at answered <;> cases answered
      rfl
  | literal kind content nonempty =>
      simp only [reading, literalReading] at answered
      split at answered <;> cases answered
      rfl
  | lineComment mark nonempty => cases answered
  | pattern kind? expression window =>
      cases kind? <;> cases answered
      rfl

-----------------------------------------------------------------------------------------
-- As it is written
-----------------------------------------------------------------------------------------

/-- Whether the tokens of the recognizer hold what they are made of as it is written. -/
def isVerbatim : Recognizer → Bool
  | word _ _ | rune _ _ | literal _ _ _ | pattern _ _ _ => true
  | _ => false

theorem take_sharedLength (first second : List Char)
    : second.take (sharedLength first second) = first.take (sharedLength first second) := by
  induction first generalizing second with
  | nil => rfl
  | cons a rest ih =>
      cases second with
      | nil => rfl
      | cons b others =>
          rw [sharedLength_cons_cons]
          split
          · next same => rw [List.take_succ_cons, List.take_succ_cons, ih, same]
          · rfl

/-- The value of a token that is verbatim is spelled by the characters that were taken for it. -/
theorem display_value_of_reading {recognizer : Recognizer} {place : Position}
    {text : List Char} {token : Token} (verbatim : recognizer.isVerbatim)
    (answered : (recognizer.reading place text).answer = .ok (some token))
    : token.value.display.toList = text.take (recognizer.reading place text).length := by
  cases recognizer with
  | word kind keywords =>
      simp only [reading, wordReading] at answered ⊢
      split at answered <;> cases answered
      rw [Value.display, String.toList_ofList]
      exact List.prefix_iff_eq_take.1 (List.takeWhile_prefix _)
  | rune kind character =>
      simp only [reading] at answered ⊢
      split at answered <;> cases answered
      next hhead =>
        obtain ⟨rest, rfl⟩ := List.head?_eq_some_iff.1 hhead
        exact String.toList_singleton character
  | literal kind content nonempty =>
      simp only [reading, literalReading] at answered ⊢
      split at answered
      · next whole =>
          cases answered
          rw [if_pos whole, take_sharedLength, whole, ← String.length_toList, List.take_length]
          rfl
      · cases answered
  | pattern kind? expression window =>
      cases kind? with
      | none => cases answered
      | some kind =>
          cases answered
          exact String.toList_ofList
  | _ => cases verbatim

end Recognizer

end Lexical
