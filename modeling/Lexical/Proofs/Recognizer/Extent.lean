import Lexical.Proofs.Recognizer.Lexeme
import Mathlib.Data.List.Basic

/-! What recognizers need of a text. All but patterns need no more than they take: cut off behind a
lexeme, the text gives the same lexeme, and where they start at a text, they start at a longer one.
-/

namespace Lexical

/-- A walk that never leaves, and takes no more than the first of two texts, is complete before the
second one, or comes to the end of both. By induction over the first text.
-/
theorem Cursor.walkText_of_append {σ : Type u} {α : Type v} {move : σ → Char → Move σ α}
    {atEnd : σ → α} {state : σ} {text more : List Char}
    (stays : ∀ state c result, move state c ≠ .leave result)
    (inside : (walkText move atEnd state (text ++ more)).2 ≤ text.length)
    : walkText move atEnd state text = walkText move atEnd state (text ++ more) := by
  induction text generalizing state with
  | nil =>
      cases more with
      | nil => rfl
      | cons c rest =>
          -- Nothing may be taken of the second text, but a walk that stays takes something.
          rw [List.nil_append, walkText] at inside
          split at inside
          · next result hmove => exact (stays _ _ _ hmove).elim
          · cases inside
          · cases inside
  | cons c rest ih =>
      rw [List.cons_append] at inside ⊢
      cases hmove : move state c with
      | leave result => exact (stays _ _ _ hmove).elim
      | take next =>
          simp only [walkText, hmove, List.length_cons, Nat.add_le_add_iff_right] at inside ⊢
          rw [ih inside]
      | last result => simp only [walkText, hmove]

namespace Recognizer

/-- Whether the recognizer seeks matches of a pattern, for which the text behind them may matter. -/
def isPattern : Recognizer → Bool
  | pattern _ _ _ => true
  | _ => false

variable {text more : List Char}

-----------------------------------------------------------------------------------------
-- Runs of characters and fixed texts
-----------------------------------------------------------------------------------------

/-- A run that is no longer than the text is the one in the text. -/
theorem takeWhile_of_append {test : Char → Bool}
    (inside : ((text ++ more).takeWhile test).length ≤ text.length)
    : text.takeWhile test = (text ++ more).takeWhile test := by
  rw [List.takeWhile_append] at inside ⊢
  split
  · next whole =>
      rw [if_pos whole, List.length_append] at inside
      have hmore : more.takeWhile test = [] := List.eq_nil_of_length_eq_zero (by omega)
      rw [hmore, List.append_nil]
      exact (List.takeWhile_prefix test).eq_of_length whole
  · rfl

theorem isPrefixOf_of_append {word : List Char} (h : word.isPrefixOf (text ++ more))
    (inside : word.length ≤ text.length)
    : word.isPrefixOf text :=
  List.isPrefixOf_iff_prefix.2
    (List.prefix_of_prefix_length_le (List.isPrefixOf_iff_prefix.1 h) (List.prefix_append _ _)
      inside)

-----------------------------------------------------------------------------------------
-- Numbers
-----------------------------------------------------------------------------------------

/-- A sign is taken with the digit that it needs behind it. -/
theorem two_le_length_of_sign {c d : Char} (sign : isSign c) (digit : Text.isAsciiDigit d)
    (rest : List Char)
    : 2 ≤ (writtenAt (c :: d :: rest)).2 := by
  unfold writtenAt
  split
  · exact Nat.le_add_right ..
  · simp only [List.head?_cons, Option.any_some, sign, if_true, List.take_succ_cons,
      List.take_zero, List.length_cons, List.length_nil, List.drop_succ_cons, List.drop_zero,
      List.takeWhile_cons_of_pos (isNumberPart_of_isAsciiDigit digit)]
    omega

theorem startsNumber_of_append (starts : startsNumber (text ++ more))
    (inside : (writtenAt (text ++ more)).2 ≤ text.length)
    : startsNumber text := by
  match text with
  | [] => exact absurd (length_pos_of_startsNumber starts) (Nat.not_lt.2 inside)
  | [c] =>
      simp only [List.cons_append, List.nil_append, startsNumber, Bool.or_eq_true,
        Bool.and_eq_true] at starts ⊢
      rcases starts with digit | ⟨sign, digit⟩
      · exact .inl digit
      · cases more with
        | nil => exact .inr ⟨sign, digit⟩
        | cons d rest => exact absurd inside (Nat.not_le.2 (two_le_length_of_sign sign digit rest))
  | c :: d :: rest => exact starts

/-- What announces a base is inside the text if the number is. -/
theorem announcedAt?_of_append (some : text ≠ [])
    (inside : (writtenAt (text ++ more)).2 ≤ text.length)
    : announcedAt? text = announcedAt? (text ++ more) := by
  match text with
  | [] => exact (some rfl).elim
  | [c] =>
      have hnone : announcedAt? [c] = none := by simp [announcedAt?]
      cases hannounced : announcedAt? ([c] ++ more) with
      | none => exact hnone
      | some base =>
          simp only [writtenAt, hannounced, List.length_singleton] at inside
          omega
  | c :: d :: rest => rfl

/-- A number that is no longer than the text is the one in the text. -/
theorem writtenAt_of_append (some : text ≠ [])
    (inside : (writtenAt (text ++ more)).2 ≤ text.length)
    : writtenAt text = writtenAt (text ++ more) := by
  have hannouncedAt := announcedAt?_of_append some inside
  have hbody (count : Nat)
      (fits : count + (((text ++ more).drop count).takeWhile isNumberPart).length ≤ text.length)
      : ((text ++ more).drop count).takeWhile isNumberPart
        = (text.drop count).takeWhile isNumberPart := by
    have hcount : count ≤ text.length := by omega
    rw [List.drop_append_of_le_length hcount] at fits ⊢
    symm
    apply takeWhile_of_append
    rw [List.length_drop]
    omega
  cases hannounced : announcedAt? (text ++ more) with
  | some base =>
      simp only [writtenAt, hannounced] at inside
      have htwo : 2 ≤ text.length := by omega
      simp only [writtenAt, hannouncedAt, hannounced, hbody 2 inside,
        List.take_append_of_le_length htwo]
  | none =>
      obtain ⟨c, rest, rfl⟩ := List.exists_cons_of_ne_nil some
      have hsame : (if (c :: rest ++ more).head?.any isSign
            then (c :: rest ++ more).take 1 else [])
          = (if (c :: rest).head?.any isSign then (c :: rest).take 1 else []) := rfl
      simp only [writtenAt, hannounced, hsame] at inside
      simp only [writtenAt, hannouncedAt, hannounced, hsame, hbody _ inside]

-----------------------------------------------------------------------------------------
-- Recognizers
-----------------------------------------------------------------------------------------

variable {recognizer : Recognizer}

/-- Where a recognizer can start, it can with more text behind, recognizer by recognizer. -/
theorem starts_append (unpatterned : recognizer.isPattern = false) (h : recognizer.starts text)
    (more : List Char)
    : recognizer.starts (text ++ more) := by
  obtain ⟨c, rest, rfl⟩ := List.exists_cons_of_ne_nil (ne_nil_of_starts h)
  cases recognizer with
  | number integerKind floatKind =>
      cases rest with
      | nil =>
          have digit : Text.isAsciiDigit c := by
            simpa [starts, startsNumber] using h
          simp [starts, startsNumber, digit]
      | cons d others => exact h
  | literal kind content nonempty =>
      exact List.isPrefixOf_iff_prefix.2
        ((List.isPrefixOf_iff_prefix.1 h).trans (List.prefix_append _ _))
  | lineComment mark nonempty =>
      exact List.isPrefixOf_iff_prefix.2
        ((List.isPrefixOf_iff_prefix.1 h).trans (List.prefix_append _ _))
  | pattern kind? expression window => cases unpatterned
  | _ => exact h

/-- What a recognizer takes of the first of two texts, it takes of the first one alone. -/
theorem reading_of_append (unpatterned : recognizer.isPattern = false) {place : Position}
    (starts : recognizer.starts (text ++ more))
    (inside : (recognizer.reading place (text ++ more)).length ≤ text.length)
    : recognizer.starts text
      ∧ recognizer.reading place text = recognizer.reading place (text ++ more) := by
  have some : text ≠ [] := by
    rintro rfl
    exact absurd (reading_sound place starts).moves (Nat.not_lt.2 inside)
  cases recognizer with
  | blank =>
      obtain ⟨c, rest, rfl⟩ := List.exists_cons_of_ne_nil some
      exact ⟨starts, rfl⟩
  | word kind keywords =>
      have hword := takeWhile_of_append inside
      obtain ⟨c, rest, rfl⟩ := List.exists_cons_of_ne_nil some
      refine ⟨starts, ?_⟩
      simp only [reading, wordReading, hword]
  | number integerKind floatKind =>
      refine ⟨startsNumber_of_append starts inside, ?_⟩
      simp only [reading, writtenAt_of_append some inside]
  | quotedText quote kind =>
      obtain ⟨c, rest, rfl⟩ := List.exists_cons_of_ne_nil some
      refine ⟨starts, ?_⟩
      have hinside : (quotedAt quote (rest ++ more)).2 ≤ rest.length := by
        simp only [reading, List.cons_append, List.drop_one, List.tail_cons, List.length_cons]
          at inside
        omega
      have hquoted : quotedAt quote rest = quotedAt quote (rest ++ more) :=
        Cursor.walkText_of_append (fun state c => (quotedMove_spec quote state c).1) hinside
      simp only [reading, List.cons_append, List.drop_one, List.tail_cons, hquoted]
  | rune kind character =>
      obtain ⟨c, rest, rfl⟩ := List.exists_cons_of_ne_nil some
      exact ⟨starts, rfl⟩
  | literal kind content nonempty =>
      have hshared := sharedLength_of_isPrefixOf starts
      have hlength : content.toList.length ≤ text.length := by
        rw [reading, literalReading, hshared, String.length_toList, if_pos rfl] at inside
        exact inside
      have starts' := isPrefixOf_of_append starts hlength
      refine ⟨starts', ?_⟩
      simp only [reading, literalReading, hshared, sharedLength_of_isPrefixOf starts',
        String.length_toList, if_true]
  | lineComment mark nonempty =>
      simp only [reading, commentReading] at inside
      have hmark : mark.length ≤ text.length := by omega
      refine ⟨isPrefixOf_of_append starts hmark, ?_⟩
      rw [List.drop_append_of_le_length hmark] at inside
      have hbody : (text.drop mark.length).takeWhile (· != '\n')
          = (text.drop mark.length ++ more).takeWhile (· != '\n') := by
        apply takeWhile_of_append
        rw [List.length_drop]
        omega
      simp only [reading, commentReading, List.drop_append_of_le_length hmark, hbody]
  | pattern kind? expression window => cases unpatterned

end Recognizer

end Lexical
