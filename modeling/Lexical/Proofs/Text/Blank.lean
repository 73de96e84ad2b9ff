import Lexical.Proofs.Recognizer.Contract

/-! Blanks and other characters. No blank is a letter or a numeral of any script, since the ranges
of the ones end before those of the others or start behind them.
-/

namespace Lexical

namespace CharSet

/-- A code point that ranges cover lies in one of them. -/
theorem exists_mem_of_covers {ranges : List (Nat × Nat)} {code : Nat} (h : covers ranges code)
    : ∃ range ∈ ranges, range.1 ≤ code ∧ code ≤ range.2 := by
  fun_induction covers ranges code with
  | case1 => cases h
  | case2 => cases h
  | case3 first last rest code notBefore inside =>
      exact ⟨(first, last), List.mem_cons_self, Nat.le_of_not_lt notBefore, inside⟩
  | case4 first last rest code notBefore behind ih =>
      obtain ⟨range, member, bounds⟩ := ih h
      exact ⟨range, List.mem_cons_of_mem _ member, bounds⟩

/-- Whether every range of the one set ends before every range of the other one or starts behind
it.
-/
def apart (set other : CharSet) : Bool :=
  set.ranges.all fun range =>
    other.ranges.all fun range' => range.2 < range'.1 || range'.2 < range.1

/-- No character is in two sets whose ranges are apart. -/
theorem contains_eq_false_of_apart {set other : CharSet} (h : set.apart other) {c : Char}
    (inSet : set.contains c)
    : other.contains c = false := by
  by_contra inOther
  rw [Bool.not_eq_false] at inOther
  obtain ⟨range, member, hlow, hhigh⟩ := exists_mem_of_covers inSet
  obtain ⟨range', member', hlow', hhigh'⟩ := exists_mem_of_covers inOther
  have hapart := List.all_eq_true.1 (List.all_eq_true.1 h range member) range' member'
  simp only [Bool.or_eq_true, decide_eq_true_eq] at hapart
  omega

end CharSet

namespace Text

variable {c : Char}

theorem blanks_apart_letters : blanks.apart letters := by decide +kernel

theorem blanks_apart_numerals : blanks.apart numerals := by decide +kernel

theorem isAlphanumeric_of_isBlank (h : isBlank c) : isAlphanumeric c = false := by
  have hletter : isLetter c = false :=
    CharSet.contains_eq_false_of_apart blanks_apart_letters h
  have hnumeral : isNumeral c = false :=
    CharSet.contains_eq_false_of_apart blanks_apart_numerals h
  rw [isAlphanumeric, hletter, hnumeral, Bool.or_self]

theorem isAsciiDigit_of_isBlank (h : isBlank c) : isAsciiDigit c = false := by
  by_contra digit
  rw [Bool.not_eq_false] at digit
  have hnumeral : isNumeral c = false :=
    CharSet.contains_eq_false_of_apart blanks_apart_numerals h
  rw [isNumeral_of_isAsciiDigit digit] at hnumeral
  cases hnumeral

/-- A blank is no character that is none. -/
theorem ne_of_isBlank (h : isBlank c) {d : Char} (other : isBlank d = false) : c ≠ d := by
  rintro rfl
  rw [h] at other
  cases other

end Text

end Lexical
