import Lexical.Proofs.View
import Lexical.Recognizer.Basic

/-! What recognizers make of a text, without a cursor: whether they can start at it, what they
answer, and how much of it they consume. The scans that do their work agree with it on every view.
-/

namespace Lexical

/-- An answer, and the number of characters that it took. -/
structure Reading where
  answer : Except Failure (Option Token)
  length : Nat

namespace Recognizer

-----------------------------------------------------------------------------------------
-- Starting
-----------------------------------------------------------------------------------------

/-- Whether a number can start at the text: at a digit, or at a sign before a digit. -/
def startsNumber : List Char → Bool
  | [] => false
  | c :: rest => Text.isAsciiDigit c || (isSign c && rest.head?.any Text.isAsciiDigit)

/-- Whether the recognizer can start at the text. -/
def starts : Recognizer → List Char → Bool
  | blank, text => text.head?.any Text.isBlank
  | word _ _, text => text.head?.any isWordStart
  | number _ _, text => startsNumber text
  | quotedText quote _, text => text.head? == some quote
  | rune _ character, text => text.head? == some character
  | literal _ content _, text => content.toList.isPrefixOf text
  | lineComment mark _, text => mark.toList.isPrefixOf text
  | pattern _ expression window, text => (expression.lengthWithin (max window 1) text).isSome

@[simp] theorem onView_numberStarts (v : View)
    : numberStarts.onView v = (startsNumber v.remaining, v) := by
  cases h : v.remaining with
  | nil => simp [numberStarts, startsNumber, h]
  | cons c rest =>
      cases hdigit : Text.isAsciiDigit c <;> cases hsign : isSign c <;>
        simp [numberStarts, startsNumber, h, hdigit, hsign, List.head?_eq_getElem?]

/-- Asking whether a recognizer can start looks at the text alone, and consumes nothing. -/
@[simp] theorem onView_canStart (recognizer : Recognizer) (v : View)
    : recognizer.canStart.onView v = (recognizer.starts v.remaining, v) := by
  cases recognizer <;> simp [canStart, starts]

-----------------------------------------------------------------------------------------
-- Consuming
-----------------------------------------------------------------------------------------

/-- One character, which has to be a blank. -/
def blankReading (place : Position) : List Char → Reading
  | [] => ⟨.error (.breach (.notBlank none place)), 0⟩
  | c :: _ =>
    if Text.isBlank c then ⟨Rule.drop, 1⟩
    else ⟨.error (.breach (.notBlank (some c) (place.advance c))), 1⟩

/-- The longest run of word characters. -/
def wordReading (kind : Kind) (keywords : List (String × Kind)) (text : List Char) : Reading :=
  let word := text.takeWhile isWordPart
  ⟨if word.isEmpty then Rule.reject .emptyIdentifier
    else
      Rule.accept ((keywords.lookup (String.ofList word)).getD kind)
        (.text (String.ofList word)),
    word.length⟩

/-- The base that the first two characters announce. -/
def announcedAt? (text : List Char) : Option Nat :=
  match text.take 2 with
  | ['0', letter] => announcedBase? letter
  | _ => none

/-- The number at the start of a text as it is written, and how much of the text it takes. -/
def writtenAt (text : List Char) : Written × Nat :=
  match announcedAt? text with
  | some base =>
    let body := (text.drop 2).takeWhile isNumberPart
    (⟨text.take 2, base, body.filter (· != '_')⟩, 2 + body.length)
  | none =>
    let sign := if text.head?.any isSign then text.take 1 else []
    let body := (text.drop sign.length).takeWhile isNumberPart
    (⟨[], 10, sign ++ body.filter (· != '_')⟩, sign.length + body.length)

/-- What is answered to a number as it is written. -/
def numberAnswer (integerKind floatKind : Kind) (number : Written)
    : Except Failure (Option Token) :=
  match number.value with
  | .error cause => Rule.reject cause
  | .ok (.int value) => Rule.accept integerKind (.int value)
  | .ok value => Rule.accept floatKind value

/-- What follows an opening quote, up to the closing one. -/
def quotedAt (quote : Char) (text : List Char) : Except Error.Cause String × Nat :=
  Cursor.walkText (quotedMove quote) (fun state => .error (.unterminatedString state.text)) {} text

/-- What is answered to quoted text. -/
def quotedAnswer (kind : Kind) : Except Error.Cause String → Except Failure (Option Token)
  | .error cause => Rule.reject cause
  | .ok text => Rule.accept kind (.text text)

/-- The number of characters in which two texts begin alike. -/
def sharedLength (first second : List Char) : Nat :=
  ((first.zip second).takeWhile fun pair => pair.1 == pair.2).length

/-- A fixed text, or what is there instead of its first character that differs. -/
def literalReading (kind : Kind) (literal : String) (text : List Char) : Reading :=
  let shared := sharedLength literal.toList text
  if shared = literal.length then ⟨Rule.accept kind (.text literal), shared⟩
  else ⟨Rule.reject (.literalMismatch literal text[shared]? shared), shared + 1⟩

/-- The mark and the rest of its line. -/
def commentReading (mark : String) (text : List Char) : Reading :=
  ⟨Rule.drop, mark.length + ((text.drop mark.length).takeWhile (· != '\n')).length⟩

/-- The match of a pattern, or nothing where there is none. -/
def patternReading (kind? : Option Kind) (expression : Pattern) (window : Nat)
    (text : List Char)
    : Reading :=
  let length := (expression.lengthWithin (max window 1) text).getD 0
  match kind? with
  | some kind => ⟨Rule.accept kind (.text (String.ofList (text.take length))), length⟩
  | none => ⟨Rule.drop, length⟩

/-- What the recognizer makes of the text at a place. -/
def reading (place : Position) (text : List Char) : Recognizer → Reading
  | blank => blankReading place text
  | word kind keywords => wordReading kind keywords text
  | number integerKind floatKind =>
    let (written, length) := writtenAt text
    ⟨numberAnswer integerKind floatKind written, length⟩
  | quotedText quote kind =>
    let (content, length) := quotedAt quote (text.drop 1)
    ⟨quotedAnswer kind content, 1 + length⟩
  | rune kind character =>
    ⟨if text.head? = some character then Rule.accept kind (.rune character)
      else Rule.reject (.runeMismatch character text.head?), 1⟩
  | literal kind content _ => literalReading kind content text
  | lineComment mark _ => commentReading mark text
  | pattern kind? expression window => patternReading kind? expression window text

@[simp] theorem onView_consumeBlank (v : View)
    : consumeBlank.onView v
      = ((blankReading v.origin v.remaining).answer,
          v.skip (blankReading v.origin v.remaining).length) := by
  cases h : v.remaining with
  | nil => simp [consumeBlank, blankReading, h, View.skip]
  | cons c rest =>
      cases hblank : Text.isBlank c <;>
        simp [consumeBlank, blankReading, h, hblank, View.skip]

@[simp] theorem onView_consumeWord (kind : Kind) (keywords : List (String × Kind)) (v : View)
    : (consumeWord kind keywords).onView v
      = ((wordReading kind keywords v.remaining).answer,
          v.skip (wordReading kind keywords v.remaining).length) := by
  cases h : v.remaining.takeWhile isWordPart <;> simp [consumeWord, wordReading, h]

@[simp] theorem onView_announced (v : View)
    : announced.onView v = (announcedAt? v.remaining, v) := by
  rcases h : v.remaining with _ | ⟨first, _ | ⟨second, rest⟩⟩
  · simp [announced, announcedAt?, h]
  · by_cases zero : first = '0' <;> simp [announced, announcedAt?, h, zero]
  · by_cases zero : first = '0' <;> simp [announced, announcedAt?, h, zero]

@[simp] theorem onView_takeNumber (v : View)
    : takeNumber.onView v
      = ((writtenAt v.remaining).1, v.skip (writtenAt v.remaining).2) := by
  cases h : announcedAt? v.remaining with
  | some base => simp [takeNumber, writtenAt, h]
  | none =>
      cases hsign : v.remaining.head?.any isSign with
      | false => simp [takeNumber, takeSign, writtenAt, h, hsign]
      | true =>
          have hone : min 1 v.remaining.length = 1 := by
            cases hremaining : v.remaining <;> simp_all
          simp [takeNumber, takeSign, writtenAt, h, hsign, hone]

@[simp] theorem onView_consumeNumber (integerKind floatKind : Kind) (v : View)
    : (consumeNumber integerKind floatKind).onView v
      = (numberAnswer integerKind floatKind (writtenAt v.remaining).1,
          v.skip (writtenAt v.remaining).2) := by
  rw [consumeNumber, Scan.onView_map, onView_takeNumber]
  rfl

/-- Consuming quoted text takes what its reading does: where the text ran out, there is nothing left
that the question for the closing quote could take.
-/
@[simp] theorem onView_takeQuoted (quote : Char) (v : View)
    : (takeQuoted quote).onView v
      = ((quotedAt quote v.remaining).1, v.skip (quotedAt quote v.remaining).2) := by
  have hwalk := Cursor.walkText_map_inl (quotedMove quote)
    (fun state => .error (.unterminatedString state.text)) {} v.remaining
  rw [quotedAt, ← hwalk]
  rcases hreached : Cursor.walkText (fun state c => (quotedMove quote state c).map Sum.inl)
      Sum.inr {} v.remaining with ⟨result | state, count⟩
  · simp [takeQuoted, hreached]
  · have hall : count = v.remaining.length := Cursor.length_of_walkText_inr hreached
    have hnone : (v.skip count).skip 1 = v.skip count := by
      refine View.skip_of_nil ?_ 1
      rw [View.remaining_skip, hall, List.drop_length]
    cases hescaped : state.escaped <;> simp [takeQuoted, hreached, hescaped, hnone]

@[simp] theorem onView_consumeQuoted (quote : Char) (kind : Kind) (v : View)
    : (consumeQuoted quote kind).onView v
      = (quotedAnswer kind (quotedAt quote (v.remaining.drop 1)).1,
          v.skip (1 + (quotedAt quote (v.remaining.drop 1)).2)) := by
  cases h : (quotedAt quote (v.remaining.drop 1)).1 <;>
    simp_all [consumeQuoted, quotedAnswer]

@[simp] theorem onView_consumeRune (kind : Kind) (expected : Char) (v : View)
    : (consumeRune kind expected).onView v
      = (if v.remaining.head? = some expected then Rule.accept kind (.rune expected)
          else Rule.reject (.runeMismatch expected v.remaining.head?),
          v.skip 1) := by
  by_cases h : v.remaining.head? = some expected <;> simp [consumeRune, h]

@[simp] theorem sharedLength_nil (text : List Char) : sharedLength [] text = 0 := rfl

theorem sharedLength_cons_cons (a b : Char) (first second : List Char)
    : sharedLength (a :: first) (b :: second)
      = if a = b then sharedLength first second + 1 else 0 := by
  by_cases h : a = b <;> simp [sharedLength, h]

/-- Consuming an expected word goes on as long as the texts are alike. Witness: induction over
the word, with the index of the first character that is still expected.
-/
theorem onView_takeExpected (index : Nat) (word : List Char) (v : View)
    : (takeExpected index word).onView v
      = if sharedLength word v.remaining = word.length then (none, v.skip word.length)
        else
          (some (v.remaining[sharedLength word v.remaining]?,
              index + sharedLength word v.remaining),
            v.skip (sharedLength word v.remaining + 1)) := by
  induction word generalizing index v with
  | nil => simp [takeExpected]
  | cons expected rest ih =>
      cases h : v.remaining with
      | nil => simp [takeExpected, sharedLength, h]
      | cons c others =>
          by_cases hc : c = expected
          · simp only [takeExpected, Scan.onView_bind, Scan.onView_next, h, List.head?_cons, hc,
              if_true, ih, View.remaining_skip, View.skip_skip, List.drop_succ_cons,
              List.drop_zero, sharedLength_cons_cons, List.length_cons, Nat.add_right_cancel_iff,
              List.getElem?_cons_succ, Nat.add_comm 1, Nat.add_assoc]
          · simp [takeExpected, sharedLength_cons_cons, h, hc, Ne.symm hc]

@[simp] theorem onView_consumeLiteral (kind : Kind) (literal : String) (v : View)
    : (consumeLiteral kind literal).onView v
      = ((literalReading kind literal v.remaining).answer,
          v.skip (literalReading kind literal v.remaining).length) := by
  by_cases h : sharedLength literal.toList v.remaining = literal.length <;>
    simp [consumeLiteral, literalReading, onView_takeExpected, h, String.length_toList]

@[simp] theorem onView_dropNext (count : Nat) (v : View)
    : (dropNext count).onView v = ((), v.skip count) := by
  induction count generalizing v with
  | zero => simp [dropNext]
  | succ count ih => simp [dropNext, ih, Nat.add_comm 1]

@[simp] theorem onView_consumeComment (mark : String) (v : View)
    : (consumeComment mark).onView v
      = ((commentReading mark v.remaining).answer,
          v.skip (commentReading mark v.remaining).length) := by
  simp [consumeComment, commentReading, bne]

@[simp] theorem onView_consumeMatch (kind? : Option Kind) (expression : Pattern)
    (window : Nat) (v : View)
    : (consumeMatch kind? expression window).onView v
      = ((patternReading kind? expression window v.remaining).answer,
          v.skip (patternReading kind? expression window v.remaining).length) := by
  cases kind? <;> simp [consumeMatch, patternReading]

/-- Consuming answers and skips what the reading of the remaining text says. -/
theorem onView_consume (recognizer : Recognizer) (v : View)
    : recognizer.consume.onView v
      = ((recognizer.reading v.origin v.remaining).answer,
          v.skip (recognizer.reading v.origin v.remaining).length) := by
  cases recognizer <;> simp [consume, reading]

/-- At a cursor, what is read is the text that remains. -/
theorem fst_run_consume (recognizer : Recognizer) (c : Cursor)
    : (recognizer.consume.run c).1 = (recognizer.reading c.origin c.remaining).answer := by
  simp [Scan.fst_run, onView_consume]

/-- Consuming steps over what the reading takes. -/
theorem stepsOver_consume {recognizer : Recognizer} {c : Cursor} {taken : List Char}
    (begins : taken <+: c.remaining)
    (takes : (recognizer.reading c.origin c.remaining).length = taken.length)
    : c.StepsOver taken (recognizer.consume.run c).2 := by
  apply Cursor.stepsOver_of_view begins
  simp [Scan.view_run, onView_consume, takes]

end Recognizer

end Lexical
