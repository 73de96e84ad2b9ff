import Lexical.Decimal.Text
import Lexical.Proofs.Numeral
import Lexical.Text.Quoted

/-! Texts without a line feed: those of numbers in any base, of doubles, and whatever stands between
quotes. Each is written on one line, whatever it is the text of.
-/

namespace Lexical

-----------------------------------------------------------------------------------------
-- Whole numbers
-----------------------------------------------------------------------------------------

/-- Digits never break a line. -/
theorem Text.unbroken_toDigits {base : Nat} (several : 1 < base) (number : Nat)
    : '\n' ∉ Nat.toDigits base number := by
  obtain ⟨digits, written, -⟩ := Numeral.exists_digits_of_toDigits several number
  rw [written, List.mem_map]
  rintro ⟨digit, -, same⟩
  exact Nat.digitChar_ne '\n' rfl same

theorem Text.unbroken_natRepr (number : Nat) : '\n' ∉ number.repr.toList := by
  rw [Nat.toList_repr]
  exact unbroken_toDigits (by decide) number

theorem Text.unbroken_intRepr (number : Int) : '\n' ∉ number.repr.toList := by
  rw [Int.repr_eq_if]
  split
  · exact unbroken_natRepr _
  · rw [String.toList_append, List.mem_append, not_or]
    exact ⟨by decide, unbroken_natRepr _⟩

-----------------------------------------------------------------------------------------
-- Doubles
-----------------------------------------------------------------------------------------

namespace Decimal

theorem unbroken_zeros (count : Nat) : '\n' ∉ zeros count := by
  intro member
  cases List.eq_of_mem_replicate member

theorem Digits.unbroken_positional (value : Digits) : '\n' ∉ value.positional := by
  have hdigits : '\n' ∉ Nat.toDigits 10 value.digits := Text.unbroken_toDigits (by decide) _
  unfold positional
  split
  · rw [List.mem_append, not_or]
    exact ⟨hdigits, unbroken_zeros _⟩
  · dsimp only
    split
    · simp only [List.mem_append, List.mem_cons, not_or]
      exact ⟨fun member => hdigits (List.mem_of_mem_take member), by decide,
        fun member => hdigits (List.mem_of_mem_drop member)⟩
    · simp only [List.cons_append, List.mem_append, List.mem_cons, not_or]
      exact ⟨by decide, by decide, unbroken_zeros _, hdigits⟩

/-- The text of a double has no line feed if neither its form nor the text of zero brings one. -/
theorem unbroken_floatText {tie : Tie} {form : Digits → List Char} {zero : List Char}
    (hform : ∀ value, '\n' ∉ form value) (hzero : '\n' ∉ zero) (x : Float)
    : '\n' ∉ (floatText tie form zero x).toList := by
  have hunsigned : '\n' ∉ (if x.isInf then "inf".toList
      else if x.toBits.toNat % signBit = 0 then zero
      else form (shortest tie (x.toBits.toNat % signBit))) := by
    split
    · decide
    · split
      · exact hzero
      · exact hform _
  rw [floatText]
  split
  · decide
  · rw [String.toList_ofList]
    split
    · rw [List.mem_cons, not_or]
      exact ⟨by decide, hunsigned⟩
    · exact hunsigned

theorem unbroken_fullText (x : Float) : '\n' ∉ (fullText x).toList :=
  unbroken_floatText Digits.unbroken_positional (by decide) x

end Decimal

-----------------------------------------------------------------------------------------
-- Quoted text
-----------------------------------------------------------------------------------------

namespace Text

theorem unbroken_unicodeEscape (c : Char) : '\n' ∉ unicodeEscape c := by
  simp only [unicodeEscape, List.mem_append, not_or]
  exact ⟨⟨by decide, unbroken_toDigits (by decide) _⟩, by decide⟩

/-- A line feed is escaped, and no other character is written with one. -/
theorem unbroken_escapeWithin (quote c : Char) : '\n' ∉ escapeWithin quote c := by
  by_cases hfeed : c = '\n'
  · have hescaped : escapeWithin quote '\n' = ['\\', 'n'] := rfl
    rw [hfeed, hescaped]
    decide
  · have hkept : '\n' ∉ [c] := by
      rw [List.mem_singleton]
      exact Ne.symm hfeed
    have hmarked : '\n' ∉ ['\\', c] := by
      rw [List.mem_cons, not_or]
      exact ⟨by decide, hkept⟩
    have hunicode := unbroken_unicodeEscape c
    unfold escapeWithin
    repeat' split
    all_goals first | decide | assumption

theorem unbroken_quoted (text : String) : '\n' ∉ (quoted text).toList := by
  simp only [quoted, String.toList_ofList, List.cons_append, List.mem_cons, List.mem_append,
    List.mem_flatMap, List.not_mem_nil, or_false, not_or, not_exists, not_and]
  exact ⟨by decide, fun c _ => unbroken_escapeWithin '"' c, by decide⟩

end Text

end Lexical
