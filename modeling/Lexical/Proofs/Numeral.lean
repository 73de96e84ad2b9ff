import Lexical.Numeral
import Mathlib.Data.Nat.Digits.Lemmas

/-! What numerals denote. A numeral in a base up to sixteen is read as the number that its digits
denote, each digit counting by its place, exactly where that number fits; and every number is
denoted by its digits, with letters in either case.
-/

namespace Lexical.Numeral

-----------------------------------------------------------------------------------------
-- Digits
-----------------------------------------------------------------------------------------

/-- The character is a digit of the base, with letters in either case. -/
structure IsDigit (base : Nat) (c : Char) (digit : Nat) : Prop where
  below : digit < base
  written : c = digit.digitChar ∨ c = digit.digitChar.toUpper

/-- The characters are the digits of the number, the first of them counting most. -/
def Denotes (base : Nat) (text : List Char) (number : Nat) : Prop :=
  ∃ digits,
    List.Forall₂ (IsDigit base) text digits ∧ Nat.ofDigits base digits.reverse = number

variable {base limit value number digit : Nat} {c : Char} {text : List Char}

/-- A hexadecimal digit is written as one, by a check of the characters up to the last letter. -/
theorem written_of_digit? (h : digit? 16 c = some digit)
    : c = digit.digitChar ∨ c = digit.digitChar.toUpper := by
  have ascii : c.toNat < 128 := by
    simp only [digit?, Option.filter_eq_some_iff, Char.le_def, UInt32.le_iff_toNat_le] at h
    obtain ⟨h, -⟩ := h
    have hz : 'z'.val.toNat = 122 := rfl
    have hZ : 'Z'.val.toNat = 90 := rfl
    have h9 : '9'.val.toNat = 57 := rfl
    rw [Char.toNat]
    split at h
    · omega
    · split at h
      · omega
      · split at h
        · omega
        · cases h
  have checked : ∀ code : Fin 128, ∀ digit ∈ digit? 16 (Char.ofNat code),
      Char.ofNat code = digit.digitChar ∨ Char.ofNat code = digit.digitChar.toUpper := by
    decide
  have hchecked := checked ⟨c.toNat, ascii⟩ digit
  rw [Char.ofNat_toNat] at hchecked
  exact hchecked h

theorem digit?_eq_some_iff (small : base ≤ 16)
    : digit? base c = some digit ↔ IsDigit base c digit := by
  have hbase : digit? base c = some digit ↔ digit? 16 c = some digit ∧ digit < base := by
    simp only [digit?, Option.filter_eq_some_iff, decide_eq_true_eq, and_assoc]
    constructor
    · rintro ⟨hvalue, below⟩
      exact ⟨hvalue, below.trans_le small, below⟩
    · rintro ⟨hvalue, -, below⟩
      exact ⟨hvalue, below⟩
  rw [hbase]
  constructor
  · rintro ⟨h, below⟩
    exact ⟨below, written_of_digit? h⟩
  · rintro ⟨below, written⟩
    have checked : ∀ digit : Fin 16,
        digit? 16 (Nat.digitChar digit) = some digit.val
        ∧ digit? 16 (Nat.digitChar digit).toUpper = some digit.val := by
      decide
    obtain ⟨lower, upper⟩ := checked ⟨digit, below.trans_le small⟩
    rcases written with rfl | rfl
    · exact ⟨lower, below⟩
    · exact ⟨upper, below⟩

/-- Numbers are denoted by digits, by induction over the text. -/
theorem Denotes.exists_isDigit (h : Denotes base text number) (member : c ∈ text)
    : ∃ digit, IsDigit base c digit := by
  obtain ⟨digits, written, -⟩ := h
  induction written with
  | nil => cases member
  | cons isDigit _ ih =>
      rcases List.mem_cons.1 member with rfl | member
      · exact ⟨_, isDigit⟩
      · exact ih member

/-- The characters are digits that denote the number behind digits that denote the value. -/
def DenotesBehind (base value : Nat) (text : List Char) (number : Nat) : Prop :=
  ∃ digits,
    List.Forall₂ (IsDigit base) text digits
    ∧ base ^ digits.length * value + Nat.ofDigits base digits.reverse = number

theorem denotesBehind_nil : DenotesBehind base value [] number ↔ value = number := by
  simp [DenotesBehind]

/-- The first digit belongs to the value that the others come behind. -/
theorem denotesBehind_cons (small : base ≤ 16)
    : DenotesBehind base value (c :: text) number
      ↔ ∃ digit,
          digit? base c = some digit
          ∧ DenotesBehind base (base * value + digit) text number := by
  have hvalue (digit : Nat) (digits : List Nat)
      : base ^ (digit :: digits).length * value + Nat.ofDigits base (digit :: digits).reverse
        = base ^ digits.length * (base * value + digit)
          + Nat.ofDigits base digits.reverse := by
    rw [Nat.ofDigits_reverse_cons, List.length_cons, Nat.pow_succ]
    ring
  constructor
  · rintro ⟨_, isDigit | ⟨isDigit, others⟩, hnumber⟩
    exact ⟨_, (digit?_eq_some_iff small).2 isDigit, _, others, (hvalue ..).symm.trans hnumber⟩
  · rintro ⟨digit, isDigit, digits, others, hnumber⟩
    exact ⟨_, .cons ((digit?_eq_some_iff small).1 isDigit) others, (hvalue ..).trans hnumber⟩

/-- Digits behind a value only make it grow. -/
theorem DenotesBehind.le (positive : 0 < base) (h : DenotesBehind base value text number)
    : value ≤ number := by
  obtain ⟨digits, -, rfl⟩ := h
  exact (Nat.le_mul_of_pos_left value (Nat.pow_pos positive)).trans (Nat.le_add_right ..)

/-- Digits are read as the number that they denote behind the value before them, exactly where that
number is within the limit, by induction over the text. A value beyond the limit is given up at
once, as the number would be beyond it too.
-/
theorem readDigits_eq_ok_iff (positive : 0 < base) (small : base ≤ 16) (overflow : Fault)
    (fits : value ≤ limit)
    : readDigits base limit overflow value text = .ok number
      ↔ DenotesBehind base value text number ∧ number ≤ limit := by
  induction text generalizing value with
  | nil =>
      rw [readDigits, Except.ok.injEq, denotesBehind_nil]
      constructor
      · rintro rfl
        exact ⟨rfl, fits⟩
      · exact And.left
  | cons c rest ih =>
      rw [readDigits, denotesBehind_cons small]
      cases digit? base c with
      | none => simp
      | some digit =>
          by_cases within : base * value + digit ≤ limit
          · simp [within, ih within]
          · have beyond : DenotesBehind base (base * value + digit) rest number → limit < number :=
              fun h => Nat.lt_of_lt_of_le (Nat.lt_of_not_le within) (h.le positive)
            simpa [within] using beyond

theorem denotesBehind_zero : DenotesBehind base 0 text number ↔ Denotes base text number := by
  simp [DenotesBehind, Denotes]

-----------------------------------------------------------------------------------------
-- Integers with a sign
-----------------------------------------------------------------------------------------

/-- The value of a magnitude behind a sign, or behind none. -/
def signed (sign : List Char) (magnitude : Nat) : Int :=
  if sign = ['-'] then -magnitude else magnitude

/-- An optional sign. -/
def Sign (sign : List Char) : Prop :=
  sign = [] ∨ sign = ['+'] ∨ sign = ['-']

variable {sign digits : List Char}

/-- A sign settles how large the magnitude behind it may be. -/
theorem readInt_signed (base : Nat) (optional : Sign sign) (nonempty : digits ≠ [])
    (unsigned : '+' ∉ digits ∧ '-' ∉ digits)
    : ∃ limit overflow,
        readInt base (sign ++ digits)
          = (fun magnitude => Int64.ofInt (signed sign magnitude))
            <$> readDigits base limit overflow 0 digits
        ∧ ∀ magnitude : Nat,
            magnitude ≤ limit
            ↔ -2 ^ 63 ≤ signed sign magnitude ∧ signed sign magnitude < 2 ^ 63 := by
  obtain ⟨c, others, rfl⟩ := List.exists_cons_of_ne_nil nonempty
  simp only [List.mem_cons, not_or] at unsigned
  obtain ⟨⟨plus, -⟩, minus, -⟩ := unsigned
  rcases optional with rfl | rfl | rfl
  · refine ⟨maxMagnitude, .tooLarge, ?_, ?_⟩
    · have hread : readInt base (c :: others)
          = Int64.ofNat <$> readDigits base maxMagnitude .tooLarge 0 (c :: others) := by
        unfold readInt
        split <;> simp_all
      rw [List.nil_append, hread]
      simp [signed, Int64.ofInt_eq_ofNat]
    · intro magnitude
      simp [signed, maxMagnitude]
      omega
  · refine ⟨maxMagnitude, .tooLarge, ?_, ?_⟩
    · simp [readInt, signed, Int64.ofInt_eq_ofNat]
    · intro magnitude
      simp [signed, maxMagnitude]
      omega
  · refine ⟨minMagnitude, .tooSmall, ?_, ?_⟩
    · simp [readInt, signed, Int64.ofInt_eq_ofNat]
    · intro magnitude
      simp [signed, minMagnitude]
      omega

/-- Digits behind an optional sign are read as the integer that they denote. -/
theorem readInt_eq_ok_iff (positive : 0 < base) (small : base ≤ 16) (optional : Sign sign)
    (nonempty : digits ≠ []) (unsigned : '+' ∉ digits ∧ '-' ∉ digits) {integer : Int64}
    : readInt base (sign ++ digits) = .ok integer
      ↔ ∃ magnitude,
          Denotes base digits magnitude ∧ signed sign magnitude = integer.toInt := by
  obtain ⟨limit, overflow, hread, hlimit⟩ := readInt_signed base optional nonempty unsigned
  have hdigits (magnitude : Nat)
      : readDigits base limit overflow 0 digits = .ok magnitude
        ↔ Denotes base digits magnitude ∧ magnitude ≤ limit := by
    rw [readDigits_eq_ok_iff positive small overflow limit.zero_le, denotesBehind_zero]
  rw [hread]
  constructor
  · intro h
    cases hvalue : readDigits base limit overflow 0 digits with
    | error fault => simp [hvalue] at h
    | ok magnitude =>
        obtain ⟨denotes, within⟩ := (hdigits magnitude).1 hvalue
        obtain ⟨lower, upper⟩ := (hlimit magnitude).1 within
        have same : Int64.ofInt (signed sign magnitude) = integer := by
          simpa [hvalue] using h
        exact ⟨magnitude, denotes, by rw [← same, Int64.toInt_ofInt_of_le lower upper]⟩
  · rintro ⟨magnitude, denotes, same⟩
    have within : magnitude ≤ limit := by
      rw [hlimit, same]
      exact ⟨integer.le_toInt, integer.toInt_lt⟩
    rw [(hdigits magnitude).2 ⟨denotes, within⟩]
    simp [same]

/-- Digits behind an optional sign are read where the integer that they denote has 64 bits. -/
theorem exists_readInt_iff (positive : 0 < base) (small : base ≤ 16) (optional : Sign sign)
    (nonempty : digits ≠ []) (unsigned : '+' ∉ digits ∧ '-' ∉ digits)
    : (∃ integer, readInt base (sign ++ digits) = .ok integer)
      ↔ ∃ magnitude : Nat,
          Denotes base digits magnitude
          ∧ -2 ^ 63 ≤ signed sign magnitude
          ∧ signed sign magnitude ≤ 2 ^ 63 - 1 := by
  simp only [readInt_eq_ok_iff positive small optional nonempty unsigned]
  constructor
  · rintro ⟨integer, magnitude, denotes, same⟩
    have lower := integer.le_toInt
    have upper := integer.toInt_lt
    exact ⟨magnitude, denotes, by omega, by omega⟩
  · rintro ⟨magnitude, denotes, lower, upper⟩
    refine ⟨Int64.ofInt (signed sign magnitude), magnitude, denotes, ?_⟩
    rw [Int64.toInt_ofInt_of_le lower (by omega)]

/-- Digits without a sign are read as the number that they denote. -/
theorem readInt_unsigned_eq_ok_iff (positive : 0 < base) (small : base ≤ 16)
    (nonempty : digits ≠ []) (unsigned : '+' ∉ digits ∧ '-' ∉ digits) {integer : Int64}
    : readInt base digits = .ok integer
      ↔ ∃ magnitude : Nat, Denotes base digits magnitude ∧ integer.toInt = magnitude := by
  show readInt base ([] ++ digits) = .ok integer ↔ _
  rw [readInt_eq_ok_iff positive small (.inl rfl) nonempty unsigned]
  simp [signed, eq_comm]

/-- Digits without a sign are read where the number that they denote has 63 bits. -/
theorem exists_readInt_unsigned_iff (positive : 0 < base) (small : base ≤ 16)
    (nonempty : digits ≠ []) (unsigned : '+' ∉ digits ∧ '-' ∉ digits)
    : (∃ integer, readInt base digits = .ok integer)
      ↔ ∃ magnitude, Denotes base digits magnitude ∧ magnitude ≤ 2 ^ 63 - 1 := by
  have hread := exists_readInt_iff positive small (.inl rfl) nonempty unsigned
  have hbounds (magnitude : Nat)
      : (-2 ^ 63 ≤ signed [] magnitude ∧ signed [] magnitude ≤ 2 ^ 63 - 1)
        ↔ magnitude ≤ 2 ^ 63 - 1 := by
    have same : signed [] magnitude = magnitude := rfl
    omega
  simpa only [List.nil_append, hbounds] using hread

-----------------------------------------------------------------------------------------
-- Writing numbers
-----------------------------------------------------------------------------------------

/-- The character is the given one, or its capital. -/
def InEitherCase (c lower : Char) : Prop :=
  c = lower ∨ c = lower.toUpper

/-- The digits of a number as numbers, by strong induction as the last of them is split off. -/
theorem exists_digits_of_toDigits (several : 1 < base) (number : Nat)
    : ∃ digits : List Nat,
        Nat.toDigits base number = digits.map Nat.digitChar
        ∧ (∀ digit ∈ digits, digit < base)
        ∧ Nat.ofDigits base digits.reverse = number := by
  induction number using Nat.strongRecOn with
  | ind number ih =>
      by_cases below : number < base
      · refine ⟨[number], ?_, ?_, ?_⟩
        · rw [Nat.toDigits_of_lt_base below, List.map_singleton]
        · simpa using below
        · simp
      · have large := Nat.le_of_not_lt below
        have hless : number / base < number := Nat.div_lt_self (by omega) several
        obtain ⟨digits, written, bounded, hvalue⟩ := ih _ hless
        refine ⟨digits ++ [number % base], ?_, ?_, ?_⟩
        · rw [Nat.toDigits_of_base_le several large, written, List.map_append, List.map_singleton]
        · intro digit member
          rcases List.mem_append.1 member with member | member
          · exact bounded digit member
          · rw [List.mem_singleton.1 member]
            exact Nat.mod_lt number (by omega)
        · rw [List.reverse_append, List.reverse_singleton, List.singleton_append,
            Nat.ofDigits_cons, hvalue]
          exact Nat.mod_add_div number base

/-- A number is denoted by its digits, with letters in either case. -/
theorem denotes_of_toDigits (several : 1 < base)
    (written : List.Forall₂ InEitherCase text (Nat.toDigits base number))
    : Denotes base text number := by
  obtain ⟨digits, hdigits, bounded, hvalue⟩ := exists_digits_of_toDigits several number
  rw [hdigits, List.forall₂_map_right_iff] at written
  refine ⟨digits, ?_, hvalue⟩
  clear hdigits hvalue
  induction written with
  | nil => exact .nil
  | @cons c digit rest digits same others ih =>
      obtain ⟨below, bounded⟩ := List.forall_mem_cons.1 bounded
      exact .cons ⟨below, same⟩ (ih bounded)

/-- The decimal text of an integer is its magnitude behind its sign. -/
theorem exists_signed_of_repr (integer : Int)
    : ∃ sign magnitude,
        Sign sign
        ∧ integer.repr.toList = sign ++ Nat.toDigits 10 magnitude
        ∧ signed sign magnitude = integer := by
  rw [Int.repr_eq_if]
  split
  · next positive =>
      refine ⟨[], integer.toNat, .inl rfl, Nat.toList_repr, ?_⟩
      simp [signed, positive]
  · next negative =>
      refine ⟨['-'], (-integer).toNat, .inr (.inr rfl), ?_, ?_⟩
      · rw [String.toList_append, Nat.toList_repr]
        rfl
      · simp only [signed, if_true]
        omega

end Lexical.Numeral
