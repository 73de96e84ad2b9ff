import Lexical.Proofs.Scan.Causal
import Lexical.Recognizer.Basic

/-! Recognizers and what they have read. Each of them is put together from looks and steps on the
cursor, which settles that characters it has not read have no influence on it.
-/

namespace Lexical

namespace Recognizer

open Scan

-----------------------------------------------------------------------------------------
-- Starting
-----------------------------------------------------------------------------------------

theorem causal_numberStarts : Causal numberStarts.run := by
  refine causal_bind (causal_peek 0) ?_
  rintro (_ | c)
  · exact causal_pure _
  · simp only
    split
    · exact causal_pure _
    · split
      · exact causal_map (causal_peek 1)
      · exact causal_pure _

/-- Asking a recognizer whether it can start reads as far as it looks, and no further. -/
theorem causal_canStart (recognizer : Recognizer) : Causal recognizer.canStart.run := by
  cases recognizer with
  | blank => exact causal_seesWhere _
  | word _ _ => exact causal_seesWhere _
  | number _ _ => exact causal_numberStarts
  | quotedText quote _ => exact causal_sees quote
  | rune _ character => exact causal_sees character
  | literal _ content _ => exact causal_spells content.toList
  | lineComment mark _ => exact causal_spells mark.toList
  | pattern _ expression window => exact causal_map (causal_measure expression _)

-----------------------------------------------------------------------------------------
-- Consuming
-----------------------------------------------------------------------------------------

theorem causal_consumeBlank : Causal consumeBlank.run := by
  refine causal_bind causal_next ?_
  intro found
  split
  · exact causal_pure _
  · exact causal_bind causal_origin (fun _ => causal_pure _)

theorem causal_consumeWord (kind : Kind) (keywords : List (String × Kind))
    : Causal (consumeWord kind keywords).run := by
  refine causal_bind (causal_takeWhile _) ?_
  intro word
  split
  · exact causal_pure _
  · exact causal_pure _

theorem causal_takeSign : Causal takeSign.run := by
  refine causal_bind (causal_seesWhere _) ?_
  intro signed
  split
  · exact causal_take 1
  · exact causal_pure _

theorem causal_announced : Causal announced.run := by
  refine causal_bind (causal_peek 0) (fun first => ?_)
  refine causal_bind (causal_peek 1) (fun second => ?_)
  split
  · exact causal_pure _
  · exact causal_pure _

theorem causal_takeNumber : Causal takeNumber.run := by
  refine causal_bind causal_announced ?_
  rintro (_ | base)
  · exact causal_bind causal_takeSign
      (fun _ => causal_bind (causal_takeWhile _) (fun _ => causal_pure _))
  · exact causal_bind (causal_take 2)
      (fun _ => causal_bind (causal_takeWhile _) (fun _ => causal_pure _))

theorem causal_takeQuoted (quote : Char) : Causal (takeQuoted quote).run := by
  refine causal_bind (causal_walk _ _ _) ?_
  rintro (result | state)
  · exact causal_pure _
  · simp only
    split
    · exact causal_bind (causal_discard causal_next) (fun _ => causal_pure _)
    · exact causal_pure _

theorem causal_consumeQuoted (quote : Char) (kind : Kind)
    : Causal (consumeQuoted quote kind).run := by
  refine causal_bind (causal_discard causal_next) ?_
  intro _
  refine causal_bind (causal_takeQuoted quote) ?_
  rintro (cause | text)
  · exact causal_pure _
  · exact causal_pure _

theorem causal_consumeRune (kind : Kind) (expected : Char)
    : Causal (consumeRune kind expected).run := by
  refine causal_bind causal_next ?_
  intro received
  split
  · exact causal_pure _
  · exact causal_pure _

/-- An expected word is read up to the first character that differs, by induction over it. -/
theorem causal_takeExpected (index : Nat) (word : List Char)
    : Causal (takeExpected index word).run := by
  induction word generalizing index with
  | nil => exact causal_pure _
  | cons expected rest ih =>
      refine causal_bind causal_next ?_
      intro received
      split
      · exact ih (index + 1)
      · exact causal_pure _

theorem causal_consumeLiteral (kind : Kind) (text : String)
    : Causal (consumeLiteral kind text).run := by
  refine causal_bind (causal_takeExpected 0 text.toList) ?_
  rintro (_ | ⟨received, index⟩)
  · exact causal_pure _
  · exact causal_pure _

theorem causal_dropNext (count : Nat) : Causal (dropNext count).run := by
  induction count with
  | zero => exact causal_pure _
  | succ count ih => exact causal_bind (causal_discard causal_next) (fun _ => ih)

theorem causal_consumeComment (mark : String) : Causal (consumeComment mark).run :=
  causal_bind (causal_dropNext mark.length)
    (fun _ =>
      causal_bind (causal_discard (causal_takeWhile _)) (fun _ => causal_pure _))

theorem causal_consumeMatch (kind? : Option Kind) (expression : Pattern) (window : Nat)
    : Causal (consumeMatch kind? expression window).run := by
  refine causal_bind (causal_measure expression _) ?_
  intro length
  refine causal_bind (causal_take (length.getD 0)) ?_
  intro text
  cases kind? with
  | none => exact causal_pure _
  | some kind => exact causal_pure _

/-- Consuming reads as far as it decides, and no further. -/
theorem causal_consume (recognizer : Recognizer) : Causal recognizer.consume.run := by
  cases recognizer with
  | blank => exact causal_consumeBlank
  | word kind keywords => exact causal_consumeWord kind keywords
  | number integerKind floatKind => exact causal_map causal_takeNumber
  | quotedText quote kind => exact causal_consumeQuoted quote kind
  | rune kind character => exact causal_consumeRune kind character
  | literal kind content _ => exact causal_consumeLiteral kind content
  | lineComment mark _ => exact causal_consumeComment mark
  | pattern kind? expression window => exact causal_consumeMatch kind? expression window

end Recognizer

end Lexical
