import Lexical.Proofs.Json.Reading

/-! Numbers of a JSON text. A whole number within 64 bits is read as what its digits denote, and
every number that is well formed is passed over, whatever its size.
-/

namespace Lexical.Json

variable {text rest : List Char} {c : Char} {number value : Nat}

-----------------------------------------------------------------------------------------
-- Digits
-----------------------------------------------------------------------------------------

theorem isDigit_of_isDigit {digit : Nat} (isDigit : Numeral.IsDigit 10 c digit)
    : c.isDigit ∧ c.toNat - '0'.toNat = digit := by
  have checked : ∀ digit : Fin 10,
      (Nat.digitChar digit).isDigit ∧ (Nat.digitChar digit).toNat - '0'.toNat = digit.val
      ∧ (Nat.digitChar digit).toUpper = Nat.digitChar digit := by
    decide
  obtain ⟨hdigit, hvalue, hupper⟩ := checked ⟨digit, isDigit.below⟩
  rcases isDigit.written with rfl | rfl
  · exact ⟨hdigit, hvalue⟩
  · rw [hupper]
    exact ⟨hdigit, hvalue⟩

/-- Digits of a number that keeps within the limit are all appended, by induction over them. -/
theorem appendDigits_of_denotesBehind {limit : Nat} (fits : number ≤ limit)
    (h : Numeral.DenotesBehind 10 value text number)
    : appendDigits limit value text = (number, 0) := by
  induction text generalizing value with
  | nil => rw [appendDigits, Numeral.denotesBehind_nil.1 h]
  | cons c others ih =>
      obtain ⟨digit, hdigit, behind⟩ := (Numeral.denotesBehind_cons (by decide)).1 h
      obtain ⟨-, hvalue⟩ := isDigit_of_isDigit ((Numeral.digit?_eq_some_iff (by decide)).1 hdigit)
      have hle := behind.le (by decide)
      rw [appendDigits]
      simp only [hvalue]
      rw [if_pos (hle.trans fits), ih behind]

theorem NumberEnds.stops (ends : NumberEnds rest) : ∀ c ∈ rest.head?, c.isDigit = false :=
  fun c member => (ends c member).1

namespace Reader

/-- All digits are taken that come in a row. -/
theorem run_digits (all : ∀ c ∈ text, c.isDigit) (stops : ∀ c ∈ rest.head?, c.isDigit = false)
    : digits.run (text ++ rest) = .ok (text, rest) := by
  have htake : (text ++ rest).takeWhile Char.isDigit = text := by
    rw [List.takeWhile_append_of_pos all]
    cases rest with
    | nil => simp
    | cons c others =>
        have noDigit : ¬c.isDigit := by
          rw [stops c rfl]
          decide
        rw [List.takeWhile_cons_of_neg noDigit, List.append_nil]
  show Except.ok ((text ++ rest).takeWhile Char.isDigit,
    (text ++ rest).drop ((text ++ rest).takeWhile Char.isDigit).length) = _
  rw [htake, List.drop_left]

theorem any_isDigit_eq_false (stops : ∀ c ∈ rest.head?, c.isDigit = false)
    : rest.head?.any Char.isDigit = false := by
  cases rest with
  | nil => rfl
  | cons c others => exact stops c rfl

-----------------------------------------------------------------------------------------
-- Numbers that are read
-----------------------------------------------------------------------------------------

/-- Where a number ends, none of its marks comes next. -/
theorem run_afterWhole (ends : NumberEnds rest)
    : (afterWhole false number 0).run rest = .ok (.natural number, rest) := by
  rw [afterWhole, run_bind_of_run (run_peek rest)]
  split
  · next point => exact absurd (ends '.' point).2 (by decide)
  · next mark => exact absurd (ends 'e' mark).2 (by decide)
  · next mark => exact absurd (ends 'E' mark).2 (by decide)
  · rfl

/-- A number that does not begin with a zero has all the digits that come in a row as its whole
part.
-/
theorem run_number_of_digits (negative : Bool) (isDigits : Digits text)
    (positive : text.head? ≠ some '0') (ends : NumberEnds rest)
    : (Reader.number negative).run (text ++ rest)
      = (let (significand, unused) := appendDigits maxSignificand 0 text
        afterWhole negative significand unused).run rest := by
  obtain ⟨nonempty, all⟩ := isDigits
  cases text with
  | nil => exact absurd rfl nonempty
  | cons c others =>
      have nonzero : c ≠ '0' := fun zero => positive (congrArg some zero)
      rw [Reader.number, List.cons_append, run_bind_of_run (run_get _)]
      simp only
      rw [if_pos (all c List.mem_cons_self), ← List.cons_append,
        run_bind_of_run (run_digits all ends.stops)]

/-- A whole number within 64 bits is read as what its digits denote. -/
theorem run_number (whole : Whole text) (denotes : Numeral.Denotes 10 text value)
    (fits : value ≤ maxSignificand) (ends : NumberEnds rest)
    : (Reader.number false).run (text ++ rest) = .ok (.natural value, rest) := by
  have behind := Numeral.denotesBehind_zero.2 denotes
  have happend := appendDigits_of_denotesBehind fits behind
  cases whole with
  | zero =>
      obtain rfl : 0 = value := congrArg Prod.fst happend
      have hzero : (Reader.number false).run ('0' :: rest)
          = (if rest.head?.any Char.isDigit then failNext .invalidNumber
              else afterWhole false 0 0 : Reader Number).run rest :=
        rfl
      rw [List.cons_append, List.nil_append, hzero, any_isDigit_eq_false ends.stops]
      exact run_afterWhole ends
  | other isDigits positive =>
      rw [run_number_of_digits false isDigits positive ends, happend]
      exact run_afterWhole ends

-----------------------------------------------------------------------------------------
-- Numbers that are passed over
-----------------------------------------------------------------------------------------

theorem run_discard {α : Type} {reader : Reader α} {found : α}
    (h : reader.run text = .ok (found, rest))
    : (discard reader).run text = .ok ((), rest) := by
  show (reader.run text >>= fun found => pure ((), found.2)) = _
  rw [h]
  rfl

theorem exists_run_sign {sign : List Char} (signed : sign ∈ [[], ['+'], ['-']])
    (isDigits : Digits text) (rest : List Char)
    : ∃ minus, Reader.sign.run (sign ++ (text ++ rest)) = .ok (minus, text ++ rest) := by
  simp only [List.mem_cons, List.not_mem_nil, or_false] at signed
  rcases signed with rfl | rfl | rfl
  · obtain ⟨nonempty, all⟩ := isDigits
    cases text with
    | nil => exact absurd rfl nonempty
    | cons c others =>
        have noMinus : c ≠ '-' := by
          rintro rfl
          exact absurd (all '-' List.mem_cons_self) (by decide)
        have noPlus : c ≠ '+' := by
          rintro rfl
          exact absurd (all '+' List.mem_cons_self) (by decide)
        refine ⟨false, ?_⟩
        rw [Reader.sign, List.nil_append, List.cons_append, run_bind_of_run (run_peek _)]
        split
        · next same => exact absurd (Option.some.inj same) noMinus
        · next same => exact absurd (Option.some.inj same) noPlus
        · rfl
  · exact ⟨false, rfl⟩
  · exact ⟨true, rfl⟩

theorem run_skipExponent (letter : Char) {sign : List Char}
    (signed : sign ∈ [[], ['+'], ['-']]) (isDigits : Digits text) (ends : NumberEnds rest)
    : skipExponent.run (letter :: (sign ++ (text ++ rest))) = .ok ((), rest) := by
  obtain ⟨minus, hsign⟩ := exists_run_sign signed isDigits rest
  rw [skipExponent, run_bind_of_run run_skip, run_bind_of_run (run_discard hsign),
    run_bind_of_run (run_digits isDigits.all ends.stops),
    List.isEmpty_eq_false_iff.2 isDigits.nonempty]
  rfl

/-- An exponent begins with its letter, and not as digits or a fraction do. -/
theorem stops_exponent (exponent : Exponent text) (ends : NumberEnds rest)
    : ∀ c ∈ (text ++ rest).head?, c.isDigit = false ∧ c ≠ '.' := by
  cases exponent with
  | absent =>
      intro c member
      obtain ⟨noDigit, other⟩ := ends c member
      exact ⟨noDigit, fun point => other (point ▸ List.mem_cons_self)⟩
  | present marked signed isDigits =>
      simp only [List.mem_cons, List.not_mem_nil, or_false] at marked
      rintro c ⟨⟩
      rcases marked with rfl | rfl <;> decide

/-- What follows the whole part of a number begins with no digit. -/
theorem stops_fraction {fraction exponent : List Char} (isFraction : Fraction fraction)
    (isExponent : Exponent exponent) (ends : NumberEnds rest)
    : ∀ c ∈ (fraction ++ (exponent ++ rest)).head?, c.isDigit = false := by
  cases isFraction with
  | absent =>
      rw [List.nil_append]
      exact fun c member => (stops_exponent isExponent ends c member).1
  | present isDigits =>
      rintro c ⟨⟩
      rfl

/-- Behind the fraction of a number only an exponent may follow. -/
theorem run_skipAfterFraction (exponent : Exponent text) (ends : NumberEnds rest)
    : (do
        match ← peek with
        | some 'e' | some 'E' => skipExponent
        | _ => pure () : Reader Unit).run (text ++ rest)
      = .ok ((), rest) := by
  rw [run_bind_of_run (run_peek _)]
  cases exponent with
  | absent =>
      rw [List.nil_append]
      split
      · next mark => exact absurd (ends 'e' mark).2 (by decide)
      · next mark => exact absurd (ends 'E' mark).2 (by decide)
      · rfl
  | @present letter sign text marked signed isDigits =>
      have hskip := run_skipExponent letter signed isDigits ends
      simp only [List.mem_cons, List.not_mem_nil, or_false] at marked
      rw [List.cons_append, List.append_assoc]
      rcases marked with rfl | rfl <;> exact hskip

/-- What follows the whole part of a number is passed over. -/
theorem run_skipAfterWhole {fraction exponent : List Char} (isFraction : Fraction fraction)
    (isExponent : Exponent exponent) (ends : NumberEnds rest)
    : skipAfterWhole.run (fraction ++ (exponent ++ rest)) = .ok ((), rest) := by
  have hend := run_skipAfterFraction isExponent ends
  have stops := stops_exponent isExponent ends
  rw [skipAfterWhole, run_bind_of_run (run_peek _)]
  cases isFraction with
  | absent =>
      rw [List.nil_append, ← hend, run_bind_of_run (run_peek _)]
      split
      · next point => exact absurd rfl (stops '.' point).2
      · next mark => rw [mark]; rfl
      · next mark => rw [mark]; rfl
      · next noMark noMark' =>
          split
          · next mark => exact absurd mark noMark
          · next mark => exact absurd mark noMark'
          · rfl
  | present isDigits =>
      rw [List.cons_append]
      simp only [List.head?_cons]
      rw [run_bind_of_run run_skip,
        run_bind_of_run (run_digits isDigits.all fun c member => (stops c member).1),
        List.isEmpty_eq_false_iff.2 isDigits.nonempty]
      exact hend

/-- A number is passed over behind its sign. -/
theorem run_skipNumber {fraction exponent : List Char} (whole : Whole text)
    (isFraction : Fraction fraction) (isExponent : Exponent exponent) (ends : NumberEnds rest)
    : skipNumber.run (text ++ (fraction ++ (exponent ++ rest))) = .ok ((), rest) := by
  have hafter := run_skipAfterWhole isFraction isExponent ends
  have stops := stops_fraction isFraction isExponent ends
  rw [skipNumber, run_bind_of_run (run_get _)]
  cases whole with
  | zero =>
      simp only [List.cons_append, List.nil_append]
      rw [run_bind_of_run run_skip, any_isDigit_eq_false stops]
      exact hafter
  | other isDigits positive =>
      split
      · next others zero =>
          have hhead : (text ++ (fraction ++ (exponent ++ rest))).head? = text.head? :=
            List.head?_append_of_ne_nil _ isDigits.nonempty
          rw [zero] at hhead
          exact absurd hhead.symm positive
      · rw [run_bind_of_run (run_digits isDigits.all stops),
          List.isEmpty_eq_false_iff.2 isDigits.nonempty]
        exact hafter

end Reader

end Lexical.Json
