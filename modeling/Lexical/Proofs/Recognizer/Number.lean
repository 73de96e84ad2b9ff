import Lexical.Proofs.Numeral
import Lexical.Proofs.Tokenizer.Cut

/-! The grammar of numbers. What comes before the body of a number settles its base, and the body is
the longest run of characters that a number can go on with. Integers are read exactly: the digits of
the body denote the number, wherever it has 64 bits. Every such number can be written in every base.
-/

namespace Lexical.Recognizer

open Numeral

-----------------------------------------------------------------------------------------
-- What comes before the body
-----------------------------------------------------------------------------------------

/-- What comes before the body of a number, its base, and the text that the body begins: a zero and
the letter that announces a base; or else a sign, if there is one, before a digit.
-/
inductive Lead : List Char → Nat → List Char → Prop
  | announced {letter base} (announces : announcedBase? letter = some base) (rest : List Char)
    : Lead ['0', letter] base rest
  | sign {mark digit} (isSign : isSign mark) (isDigit : Text.isAsciiDigit digit)
    (rest : List Char)
    : Lead [mark] 10 (digit :: rest)
  | digit {digit rest} (isDigit : Text.isAsciiDigit digit)
    (unannounced : digit = '0' → ∀ letter ∈ rest.head?, announcedBase? letter = none)
    : Lead [] 10 (digit :: rest)

variable {lead rest : List Char} {base : Nat} {c : Char}

theorem isSign_eq_false_of_isAsciiDigit (isDigit : Text.isAsciiDigit c) : isSign c = false := by
  cases hsign : isSign c with
  | false => rfl
  | true =>
      simp only [isSign, Bool.or_eq_true, beq_iff_eq] at hsign
      rcases hsign with rfl | rfl <;> cases isDigit

theorem announcedBase?_cases {letter : Char} (h : announcedBase? letter = some base)
    : letter = 'b' ∧ base = 2 ∨ letter = 'o' ∧ base = 8 ∨ letter = 'x' ∧ base = 16 := by
  unfold announcedBase? at h
  split at h <;> simp_all

theorem bounds_of_announcedBase? {letter : Char} (h : announcedBase? letter = some base)
    : 1 < base ∧ base ≤ 16 ∧ base ≠ 10 := by
  rcases announcedBase?_cases h with ⟨-, rfl⟩ | ⟨-, rfl⟩ | ⟨-, rfl⟩ <;> decide

theorem Lead.base_bounds (h : Lead lead base rest) : 0 < base ∧ base ≤ 16 := by
  cases h with
  | announced announces rest =>
      obtain ⟨several, small, -⟩ := bounds_of_announcedBase? announces
      exact ⟨Nat.zero_lt_of_lt several, small⟩
  | sign _ _ _ => decide
  | digit _ _ => decide

theorem announcedAt?_of_unannounced {digit : Char}
    (unannounced : digit = '0' → ∀ letter ∈ rest.head?, announcedBase? letter = none)
    : announcedAt? (digit :: rest) = none := by
  cases rest with
  | nil => simp [announcedAt?]
  | cons letter others =>
      by_cases zero : digit = '0'
      · simpa [announcedAt?, zero] using unannounced zero letter rfl
      · simp [announcedAt?, zero]

/-- A number can start just where it has a lead. -/
theorem startsNumber_iff {text : List Char}
    : startsNumber text ↔ ∃ lead base rest, Lead lead base rest ∧ text = lead ++ rest := by
  constructor
  · intro starts
    match text with
    | [] => cases starts
    | c :: rest =>
        simp only [startsNumber, Bool.or_eq_true, Bool.and_eq_true] at starts
        rcases starts with isDigit | ⟨isSign, follows⟩
        · by_cases announces : c = '0' ∧ ∃ letter ∈ rest.head?, (announcedBase? letter).isSome
          · obtain ⟨rfl, letter, hletter, hbase⟩ := announces
            obtain ⟨base, hbase⟩ := Option.isSome_iff_exists.1 hbase
            obtain ⟨others, rfl⟩ := List.head?_eq_some_iff.1 hletter
            exact ⟨_, _, _, .announced hbase others, rfl⟩
          · refine ⟨_, _, _, .digit isDigit ?_, rfl⟩
            intro zero letter hletter
            rw [← Option.not_isSome_iff_eq_none]
            exact fun announced => announces ⟨zero, letter, hletter, announced⟩
        · cases rest with
          | nil => cases follows
          | cons digit others => exact ⟨_, _, _, .sign isSign follows others, rfl⟩
  · rintro ⟨lead, base, rest, h, rfl⟩
    cases h with
    | announced announces rest => rfl
    | sign isSign isDigit rest => simp [startsNumber, isSign, isDigit]
    | digit isDigit unannounced => simp [startsNumber, isDigit]

/-- The digits of the body that a text begins with, which is the longest run of characters that a
number can go on with.
-/
def digitsAt (text : List Char) : List Char :=
  (text.takeWhile isNumberPart).filter (· != '_')

/-- What is written behind a lead: the sign belongs to the digits, and the letter to the header. -/
theorem Lead.writtenAt (h : Lead lead base rest)
    : Recognizer.writtenAt (lead ++ rest)
      = (if base = 10 then ⟨[], 10, lead ++ digitsAt rest⟩ else ⟨lead, base, digitsAt rest⟩,
          (lead ++ rest.takeWhile isNumberPart).length) := by
  unfold digitsAt
  cases h with
  | @announced letter base announces rest =>
      have decimal : base ≠ 10 := (bounds_of_announcedBase? announces).2.2
      simp [Recognizer.writtenAt, announcedAt?, announces, decimal, Nat.add_comm 2]
  | @sign mark digit isSign isDigit rest =>
      have unannounced : announcedAt? (mark :: digit :: rest) = none := by
        apply announcedAt?_of_unannounced
        rintro rfl
        cases isSign
      simp [Recognizer.writtenAt, unannounced, isSign, Nat.add_comm 1]
  | @digit digit rest isDigit unannounced =>
      have unsigned : isSign digit = false := isSign_eq_false_of_isAsciiDigit isDigit
      simp [Recognizer.writtenAt, announcedAt?_of_unannounced unannounced, unsigned]

-----------------------------------------------------------------------------------------
-- What is answered
-----------------------------------------------------------------------------------------

theorem Lead.optional (h : Lead lead 10 rest) : Sign lead := by
  cases h with
  | announced announces rest => exact absurd rfl (bounds_of_announcedBase? announces).2.2
  | sign isSign isDigit rest =>
      simp only [Recognizer.isSign, Bool.or_eq_true, beq_iff_eq] at isSign
      rcases isSign with rfl | rfl
      · exact .inr (.inl rfl)
      · exact .inr (.inr rfl)
  | digit isDigit unannounced => exact .inl rfl

/-- Only a lead that is a sign makes a number negative. -/
theorem Lead.signed_announced (h : Lead lead base rest) (announced : base ≠ 10) (magnitude : Nat)
    : signed lead magnitude = magnitude := by
  cases h with
  | announced announces rest => simp [signed]
  | sign _ _ _ => exact absurd rfl announced
  | digit _ _ => exact absurd rfl announced

theorem unsigned_digitsAt (text : List Char) : '+' ∉ digitsAt text ∧ '-' ∉ digitsAt text := by
  have hpart {c : Char} (h : c ∈ digitsAt text) : isNumberPart c :=
    List.mem_takeWhile_imp (List.mem_of_mem_filter h)
  constructor
  · intro member
    cases hpart member
  · intro member
    cases hpart member

/-- Behind a sign or none there is a digit. -/
theorem Lead.digitsAt_ne_nil (h : Lead lead 10 rest) : digitsAt rest ≠ [] := by
  have begins {digit : Char} (isDigit : Text.isAsciiDigit digit) (others : List Char)
      : digitsAt (digit :: others) ≠ [] := by
    have kept : digit ≠ '_' := by
      rintro rfl
      cases isDigit
    simp [digitsAt, isNumberPart_of_isAsciiDigit isDigit, kept]
  cases h with
  | announced announces rest => exact absurd rfl (bounds_of_announcedBase? announces).2.2
  | sign isSign isDigit rest => exact begins isDigit rest
  | digit isDigit unannounced => exact begins isDigit _

/-- What is answered to an integer that was read or not. -/
def integerAnswer (kind : Kind) (literal : String)
    : Except Numeral.Fault Int64 → Except Failure (Option Token)
  | .ok value => Rule.accept kind (.int value)
  | .error fault => Rule.reject (.unreadableNumber literal fault.message)

/-- What is answered to a float that was read or not. -/
def floatAnswer (kind : Kind) (literal : String)
    : Except Decimal.Fault Float → Except Failure (Option Token)
  | .ok value => Rule.accept kind (.float value)
  | .error fault => Rule.reject (.unreadableNumber literal fault.message)

/-- Behind a letter for a base an integer is read, if there are digits. -/
theorem Lead.numberAnswer_announced (h : Lead lead base rest) (announced : base ≠ 10)
    (integerKind floatKind : Kind)
    : numberAnswer integerKind floatKind (Recognizer.writtenAt (lead ++ rest)).1
      = if digitsAt rest = [] then Rule.reject (.invalidNumber (String.ofList lead))
        else
          integerAnswer integerKind (String.ofList (lead ++ digitsAt rest))
            (readInt base (digitsAt rest)) := by
  rw [h.writtenAt]
  by_cases missing : digitsAt rest = []
  · simp [numberAnswer, Written.value, Written.literal, announced, missing]
  · cases hread : readInt base (digitsAt rest) <;>
      simp [numberAnswer, Written.value, Written.literal, announced, missing, hread, integerAnswer]

/-- Behind a sign or none an integer is read, or a float if there is a point. -/
theorem Lead.numberAnswer_decimal (h : Lead lead 10 rest) (integerKind floatKind : Kind)
    : numberAnswer integerKind floatKind (Recognizer.writtenAt (lead ++ rest)).1
      = if '.' ∈ digitsAt rest then
          floatAnswer floatKind (String.ofList (lead ++ digitsAt rest))
            (Decimal.read (lead ++ digitsAt rest))
        else
          integerAnswer integerKind (String.ofList (lead ++ digitsAt rest))
            (readInt 10 (lead ++ digitsAt rest)) := by
  have whole : '.' ∉ lead := by
    rcases h.optional with rfl | rfl | rfl <;> decide
  have present : digitsAt rest ≠ [] := h.digitsAt_ne_nil
  rw [h.writtenAt]
  by_cases point : '.' ∈ digitsAt rest
  · cases hread : Decimal.read (lead ++ digitsAt rest) <;>
      simp [numberAnswer, Written.value, Written.literal, present, point, hread, floatAnswer]
  · cases hread : readInt 10 (lead ++ digitsAt rest) <;>
      simp [numberAnswer, Written.value, Written.literal, whole, present, point, hread,
        integerAnswer]

theorem integerAnswer_eq_accept_iff {kind : Kind} {literal : String}
    {outcome : Except Numeral.Fault Int64} {value : Int64}
    : integerAnswer kind literal outcome = Rule.accept kind (.int value) ↔ outcome = .ok value := by
  cases outcome <;> simp [integerAnswer, Rule.accept, Rule.reject]

theorem integerAnswer_eq_reject_iff {kind : Kind} {literal : String}
    {outcome : Except Numeral.Fault Int64}
    : (∃ reason,
        integerAnswer kind literal outcome = Rule.reject (.unreadableNumber literal reason))
      ↔ ¬∃ value, outcome = .ok value := by
  cases outcome <;> simp [integerAnswer, Rule.accept, Rule.reject]

/-- Behind a letter for a base there is an integer where the digits denote one of 63 bits. Without
digits there is no number, and otherwise it cannot be read.
-/
theorem Lead.answers_announced (h : Lead lead base rest) (announced : base ≠ 10)
    (integerKind floatKind : Kind)
    : let answer :=
        numberAnswer integerKind floatKind (Recognizer.writtenAt (lead ++ rest)).1
      let digits := digitsAt rest
      (∀ value : Int64,
        answer = Rule.accept integerKind (.int value)
        ↔ digits ≠ []
          ∧ ∃ magnitude : Nat, Denotes base digits magnitude ∧ value.toInt = magnitude)
      ∧ (answer = Rule.reject (.invalidNumber (String.ofList lead)) ↔ digits = [])
      ∧ ((∃ reason,
          answer = Rule.reject (.unreadableNumber (String.ofList (lead ++ digits)) reason))
        ↔ digits ≠ []
          ∧ ¬∃ magnitude, Denotes base digits magnitude ∧ magnitude ≤ 2 ^ 63 - 1) := by
  intro answer digits
  obtain ⟨positive, small⟩ := h.base_bounds
  have unsigned := unsigned_digitsAt rest
  have hanswer : answer = _ := h.numberAnswer_announced announced integerKind floatKind
  rw [hanswer]
  by_cases missing : digitsAt rest = []
  · simp [digits, missing, Rule.accept, Rule.reject]
  · rw [if_neg missing, integerAnswer_eq_reject_iff,
      exists_readInt_unsigned_iff positive small missing unsigned]
    refine ⟨?_, ?_, (and_iff_right missing).symm⟩
    · intro value
      rw [integerAnswer_eq_accept_iff, readInt_unsigned_eq_ok_iff positive small missing unsigned]
      exact (and_iff_right missing).symm
    · cases readInt base (digitsAt rest) <;>
        simp [integerAnswer, Rule.accept, Rule.reject, digits, missing]

/-- Behind a sign or none, and without a point, there is an integer where the digits denote one of
64 bits with the sign, and otherwise it cannot be read.
-/
theorem Lead.answers_decimal (h : Lead lead 10 rest) (integral : '.' ∉ digitsAt rest)
    (integerKind floatKind : Kind)
    : let answer :=
        numberAnswer integerKind floatKind (Recognizer.writtenAt (lead ++ rest)).1
      let digits := digitsAt rest
      (∀ value : Int64,
        answer = Rule.accept integerKind (.int value)
        ↔ ∃ magnitude, Denotes 10 digits magnitude ∧ value.toInt = signed lead magnitude)
      ∧ ((∃ reason,
          answer = Rule.reject (.unreadableNumber (String.ofList (lead ++ digits)) reason))
        ↔ ¬∃ magnitude,
            Denotes 10 digits magnitude
            ∧ -2 ^ 63 ≤ signed lead magnitude
            ∧ signed lead magnitude ≤ 2 ^ 63 - 1) := by
  intro answer digits
  obtain ⟨positive, small⟩ := h.base_bounds
  have optional := h.optional
  have present := h.digitsAt_ne_nil
  have unsigned := unsigned_digitsAt rest
  have hanswer : answer = _ := h.numberAnswer_decimal integerKind floatKind
  rw [hanswer, if_neg integral, integerAnswer_eq_reject_iff,
    exists_readInt_iff positive small optional present unsigned]
  refine ⟨?_, Iff.rfl⟩
  intro value
  rw [integerAnswer_eq_accept_iff, readInt_eq_ok_iff positive small optional present unsigned]
  simp only [digits, eq_comm]

-----------------------------------------------------------------------------------------
-- What is consumed
-----------------------------------------------------------------------------------------

/-- Consuming takes the lead and the body, and answers to what is written there. -/
theorem Lead.consume (h : Lead lead base rest) {c : Cursor} (opened : c.remaining = lead ++ rest)
    (integerKind floatKind : Kind)
    : ((Recognizer.number integerKind floatKind).consume.run c).1
        = numberAnswer integerKind floatKind (Recognizer.writtenAt (lead ++ rest)).1
      ∧ c.StepsOver (lead ++ rest.takeWhile isNumberPart)
          ((Recognizer.number integerKind floatKind).consume.run c).2 := by
  constructor
  · simp [fst_run_consume, reading, opened]
  · apply stepsOver_consume
    · rw [opened]
      exact (List.prefix_append_right_inj lead).2 (List.takeWhile_prefix _)
    · simp [reading, opened, h.writtenAt]

-----------------------------------------------------------------------------------------
-- Numbers that are written out
-----------------------------------------------------------------------------------------

variable {magnitude : Nat} {value : Int64} {integerKind floatKind : Kind}
  {recognizers : List Recognizer}

/-- A digit of a base can stand in the body of a number, and is no point. -/
theorem isNumberPart_of_isDigit {digit : Nat} (small : base ≤ 16) (h : IsDigit base c digit)
    : isNumberPart c ∧ c ≠ '.' := by
  have checked : ∀ digit : Fin 16,
      (isNumberPart (Nat.digitChar digit) ∧ Nat.digitChar digit ≠ '.')
      ∧ isNumberPart (Nat.digitChar digit).toUpper
      ∧ (Nat.digitChar digit).toUpper ≠ '.' := by
    decide +kernel
  obtain ⟨lower, upper⟩ := checked ⟨digit, h.below.trans_le small⟩
  rcases h.written with rfl | rfl
  · exact lower
  · exact upper

/-- A lead with digits behind it, among any underscores, is a token for what the digits denote. -/
theorem Lead.tokenizeText (h : Lead lead base rest)
    (denotes : Denotes base (rest.filter (· != '_')) magnitude)
    (present : rest.filter (· != '_') ≠ [])
    (same : signed lead magnitude = value.toInt)
    (first
      : recognizers.find? (·.starts (lead ++ rest)) = some (.number integerKind floatKind))
    (name : String)
    : (Tokenizer.ofRecognizers recognizers).tokenizeText name (String.ofList (lead ++ rest))
      = .ok [⟨integerKind, .int value, some (Position.start name)⟩] := by
  have small := h.base_bounds.2
  have hdigit {c : Char} (member : c ∈ rest.filter (· != '_')) : isNumberPart c ∧ c ≠ '.' := by
    obtain ⟨digit, isDigit⟩ := denotes.exists_isDigit member
    exact isNumberPart_of_isDigit small isDigit
  have whole : rest.takeWhile isNumberPart = rest := by
    rw [List.takeWhile_eq_self_iff]
    intro c member
    by_cases underscore : c = '_'
    · rw [underscore]
      decide
    · exact (hdigit (List.mem_filter.2 ⟨member, by simpa using underscore⟩)).1
  have hdigits : digitsAt rest = rest.filter (· != '_') := by
    rw [digitsAt, whole]
  have hanswer : numberAnswer integerKind floatKind (Recognizer.writtenAt (lead ++ rest)).1
      = Rule.accept integerKind (.int value) := by
    rw [← hdigits] at denotes present
    by_cases decimal : base = 10
    · subst decimal
      have integral : '.' ∉ digitsAt rest := by
        rw [hdigits]
        intro member
        exact (hdigit member).2 rfl
      exact ((h.answers_decimal integral integerKind floatKind).1 value).2
        ⟨magnitude, denotes, same.symm⟩
    · have positive := h.signed_announced decimal magnitude
      exact ((h.answers_announced decimal integerKind floatKind).1 value).2
        ⟨present, magnitude, denotes, same.symm.trans positive⟩
  apply Tokenizer.tokenizeText_of_whole
  · rw [String.toList_ofList, first]
  · rw [String.toList_ofList]
    show (⟨numberAnswer integerKind floatKind (Recognizer.writtenAt (lead ++ rest)).1,
        (Recognizer.writtenAt (lead ++ rest)).2⟩ : Reading) = _
    rw [hanswer, h.writtenAt, whole]

theorem isAsciiDigit_of_isDigit {digit : Nat} (h : IsDigit 10 c digit) : Text.isAsciiDigit c := by
  have checked : ∀ digit : Fin 10,
      Text.isAsciiDigit (Nat.digitChar digit)
      ∧ Text.isAsciiDigit (Nat.digitChar digit).toUpper := by
    decide
  obtain ⟨lower, upper⟩ := checked ⟨digit, h.below⟩
  rcases h.written with rfl | rfl
  · exact lower
  · exact upper

theorem filter_cons_of_ne_underscore (kept : c ≠ '_')
    : (c :: rest).filter (· != '_') = c :: rest.filter (· != '_') := by
  simp [kept]

/-- Where a number starts at decimal digits behind a sign or none, spread by underscores, its lead
is the sign.
-/
theorem Lead.of_decimal {sign digits : List Char} (h : Lead lead base rest) (optional : Sign sign)
    (decimal : ∀ c ∈ digits, Text.isAsciiDigit c)
    (spread : (lead ++ rest).filter (· != '_') = sign ++ digits)
    : base = 10 ∧ lead = sign ∧ rest.filter (· != '_') = digits := by
  cases h with
  | @announced letter base announces rest =>
      -- The letter would be a sign or a digit.
      have kept : letter ≠ '_' := by
        rintro rfl
        cases announces
      have member : letter ∈ sign ++ digits := by
        rw [← spread, List.mem_filter]
        simpa using kept
      rcases List.mem_append.1 member with member | member
      · rcases optional with rfl | rfl | rfl <;>
          rcases announcedBase?_cases announces with ⟨rfl, -⟩ | ⟨rfl, -⟩ | ⟨rfl, -⟩ <;>
          simp at member
      · have isDigit := decimal letter member
        rcases announcedBase?_cases announces with ⟨rfl, -⟩ | ⟨rfl, -⟩ | ⟨rfl, -⟩ <;>
          cases isDigit
  | @sign mark digit isSign isDigit rest =>
      have kept : mark ≠ '_' := by
        rintro rfl
        cases isSign
      rw [List.singleton_append, filter_cons_of_ne_underscore kept] at spread
      rcases optional with rfl | rfl | rfl
      · have isDigit : Text.isAsciiDigit mark := by
          apply decimal
          rw [← List.nil_append digits, ← spread]
          exact List.mem_cons_self
        simp [isSign_eq_false_of_isAsciiDigit isDigit] at isSign
      · obtain ⟨rfl, rest⟩ := List.cons.inj spread
        exact ⟨rfl, rfl, rest⟩
      · obtain ⟨rfl, rest⟩ := List.cons.inj spread
        exact ⟨rfl, rfl, rest⟩
  | @digit digit rest isDigit unannounced =>
      have kept : digit ≠ '_' := by
        rintro rfl
        cases isDigit
      refine ⟨rfl, ?_⟩
      rcases optional with rfl | rfl | rfl
      · exact ⟨rfl, spread⟩
      · rw [List.nil_append, filter_cons_of_ne_underscore kept] at spread
        obtain ⟨rfl, -⟩ := List.cons.inj spread
        cases isDigit
      · rw [List.nil_append, filter_cons_of_ne_underscore kept] at spread
        obtain ⟨rfl, -⟩ := List.cons.inj spread
        cases isDigit

/-- The decimal text of an integer, with any underscores among its digits, is a token for it. -/
theorem tokenizeText_of_decimal {text : List Char}
    (spread : text.filter (· != '_') = (Value.int value).display.toList)
    (first : recognizers.find? (·.starts text) = some (.number integerKind floatKind))
    (name : String)
    : (Tokenizer.ofRecognizers recognizers).tokenizeText name (String.ofList text)
      = .ok [⟨integerKind, .int value, some (Position.start name)⟩] := by
  have starts : startsNumber text := by
    simpa [Recognizer.starts] using List.find?_some first
  obtain ⟨lead, base, rest, h, rfl⟩ := startsNumber_iff.1 starts
  obtain ⟨sign, magnitude, optional, written, same⟩ := exists_signed_of_repr value.toInt
  have denotes : Denotes 10 (Nat.toDigits 10 magnitude) magnitude :=
    denotes_of_toDigits (by decide) (List.forall₂_same.2 fun _ _ => .inl rfl)
  have decimal : ∀ c ∈ Nat.toDigits 10 magnitude, Text.isAsciiDigit c := by
    intro c member
    obtain ⟨digit, isDigit⟩ := denotes.exists_isDigit member
    exact isAsciiDigit_of_isDigit isDigit
  obtain ⟨rfl, rfl, digits⟩ := h.of_decimal optional decimal (spread.trans written)
  rw [← digits] at denotes
  refine h.tokenizeText denotes ?_ same first name
  rw [digits]
  exact Nat.toDigits_ne_nil

/-- The text of a number in a base that is announced, with letters in either case and any
underscores among its digits, is a token for it.
-/
theorem tokenizeText_of_announced {letter : Char} {body : List Char} (positive : 0 ≤ value.toInt)
    (announces : announcedBase? letter = some base)
    (spread
      : List.Forall₂ InEitherCase (body.filter (· != '_'))
          (Nat.toDigits base value.toInt.toNat))
    (first
      : recognizers.find? (·.starts ('0' :: letter :: body))
        = some (.number integerKind floatKind))
    (name : String)
    : (Tokenizer.ofRecognizers recognizers).tokenizeText name
        (String.ofList ('0' :: letter :: body))
      = .ok [⟨integerKind, .int value, some (Position.start name)⟩] := by
  obtain ⟨several, -, decimal⟩ := bounds_of_announcedBase? announces
  have present : body.filter (· != '_') ≠ [] := by
    intro missing
    rw [missing, List.forall₂_nil_left_iff] at spread
    exact Nat.toDigits_ne_nil spread
  have same : signed ['0', letter] value.toInt.toNat = value.toInt := by
    rw [(Lead.announced announces body).signed_announced decimal, Int.toNat_of_nonneg positive]
  exact (Lead.announced announces body).tokenizeText (denotes_of_toDigits several spread) present
    same first name

-----------------------------------------------------------------------------------------
-- Numbers in source text
-----------------------------------------------------------------------------------------

/-- A number can start just where it has a lead, and takes the lead and the longest run of those
characters that it can go on with, whatever it comes to. Behind a letter for a base, and behind a
sign or none if there is no point, it is the integer that its digits denote, if there are digits and
the integer has 64 bits; with a point it is a float or cannot be read, and never an integer. And
every integer has tokens: its decimal text, and if it is not negative its text in each base that can
be announced, with underscores wherever among its digits.
-/
theorem integers_read_exactly (integerKind floatKind : Kind)
    : let number := Recognizer.number integerKind floatKind
      (∀ c : Cursor,
        (number.canStart.run c).1
        ↔ ∃ lead base rest, Lead lead base rest ∧ c.remaining = lead ++ rest)
      ∧ (∀ (c : Cursor) (lead : List Char) (base : Nat) (rest : List Char),
        Lead lead base rest
        → c.remaining = lead ++ rest
        → let answer := (number.consume.run c).1
          let digits := digitsAt rest
          let literal := String.ofList (lead ++ digits)
          c.StepsOver (lead ++ rest.takeWhile isNumberPart) (number.consume.run c).2
          ∧ (base ≠ 10
            → (∀ value : Int64,
                answer = Rule.accept integerKind (.int value)
                ↔ digits ≠ []
                  ∧ ∃ magnitude : Nat,
                      Denotes base digits magnitude ∧ value.toInt = magnitude)
              ∧ (answer = Rule.reject (.invalidNumber (String.ofList lead)) ↔ digits = [])
              ∧ ((∃ reason, answer = Rule.reject (.unreadableNumber literal reason))
                ↔ digits ≠ []
                  ∧ ¬∃ magnitude, Denotes base digits magnitude ∧ magnitude ≤ 2 ^ 63 - 1))
          ∧ (base = 10
            → '.' ∉ digits
            → (∀ value : Int64,
                answer = Rule.accept integerKind (.int value)
                ↔ ∃ magnitude,
                    Denotes 10 digits magnitude ∧ value.toInt = signed lead magnitude)
              ∧ ((∃ reason, answer = Rule.reject (.unreadableNumber literal reason))
                ↔ ¬∃ magnitude,
                    Denotes 10 digits magnitude
                    ∧ -2 ^ 63 ≤ signed lead magnitude
                    ∧ signed lead magnitude ≤ 2 ^ 63 - 1))
          ∧ (base = 10
            → '.' ∈ digits
            → answer
              = match Decimal.read (lead ++ digits) with
                | .ok value => Rule.accept floatKind (.float value)
                | .error fault => Rule.reject (.unreadableNumber literal fault.message)))
      ∧ (∀ (value : Int64) (text : List Char) (recognizers : List Recognizer) (name : String),
        text.filter (· != '_') = (Value.int value).display.toList
        → recognizers.find? (·.starts text) = some number
        → (Tokenizer.ofRecognizers recognizers).tokenizeText name (String.ofList text)
          = .ok [⟨integerKind, .int value, some (Position.start name)⟩])
      ∧ ∀ (value : Int64) (letter : Char) (base : Nat) (body : List Char)
          (recognizers : List Recognizer) (name : String),
          0 ≤ value.toInt
          → announcedBase? letter = some base
          → List.Forall₂ InEitherCase (body.filter (· != '_'))
              (Nat.toDigits base value.toInt.toNat)
          → recognizers.find? (·.starts ('0' :: letter :: body)) = some number
          → (Tokenizer.ofRecognizers recognizers).tokenizeText name
              (String.ofList ('0' :: letter :: body))
            = .ok [⟨integerKind, .int value, some (Position.start name)⟩] := by
  refine ⟨?_, ?_, ?_, ?_⟩
  · intro c
    rw [← startsNumber_iff, Scan.fst_run, onView_canStart, Cursor.remaining_view]
    rfl
  · intro c lead base rest h opened
    obtain ⟨hanswer, steps⟩ := h.consume opened integerKind floatKind
    refine ⟨steps, ?_, ?_, ?_⟩
    · intro announced
      rw [hanswer]
      exact h.answers_announced announced integerKind floatKind
    · rintro rfl integral
      rw [hanswer]
      exact h.answers_decimal integral integerKind floatKind
    · rintro rfl point
      rw [hanswer, h.numberAnswer_decimal, if_pos point]
      cases Decimal.read (lead ++ digitsAt rest) <;> rfl
  · intro value text recognizers name spread first
    exact tokenizeText_of_decimal spread first name
  · intro value letter base body recognizers name positive announces spread first
    exact tokenizeText_of_announced positive announces spread first name

/-- A hexadecimal number with digits in either case, a negative one and a float, as they are read in
a text; and a negative and a binary number, as they are written out.
-/
theorem integers_read_in_notes
    : ((numbers.consume.run (Cursor.ofText "notes" "0xF_f ")).1
        = Rule.accept .integer (.int 255)
        ∧ (numbers.consume.run (Cursor.ofText "notes" "0xF_f ")).2.remaining = [' '])
      ∧ (numbers.consume.run (Cursor.ofText "notes" "-1_0")).1
        = Rule.accept .integer (.int (-10))
      ∧ (numbers.consume.run (Cursor.ofText "notes" "2.5")).1
        = (match Decimal.read "2.5".toList with
          | .ok value => Rule.accept .float (.float value)
          | .error fault => Rule.reject (.unreadableNumber "2.5" fault.message))
      ∧ (Tokenizer.ofRecognizers [.blank, numbers]).tokenizeText "notes" "-1_0"
        = .ok [⟨.integer, .int (-10), some ⟨"notes", 1, 1⟩⟩]
      ∧ (Tokenizer.ofRecognizers [.blank, numbers]).tokenizeText "notes" "0b1_01"
        = .ok [⟨.integer, .int 5, some ⟨"notes", 1, 1⟩⟩] := by
  obtain ⟨-, reads, decimals, announced⟩ := integers_read_exactly .integer .float
  refine ⟨?_, ?_, ?_, ?_, ?_⟩
  · obtain ⟨steps, read, -⟩ := reads (Cursor.ofText "notes" "0xF_f ") ['0', 'x'] 16 "F_f ".toList
      (.announced rfl _) (by simp)
    have denotes : Denotes 16 (digitsAt "F_f ".toList) 255 :=
      ⟨[15, 15], .cons ⟨by decide, by decide⟩ (.cons ⟨by decide, by decide⟩ .nil), by decide⟩
    refine ⟨((read (by decide)).1 255).2 ⟨by decide, 255, denotes, rfl⟩, ?_⟩
    have hbody : "F_f ".toList.takeWhile isNumberPart = "F_f".toList := by
      decide +kernel
    have hsplit := steps.remaining
    rw [Cursor.remaining_ofText, hbody] at hsplit
    simpa [numbers] using hsplit.symm
  · obtain ⟨-, -, read, -⟩ := reads (Cursor.ofText "notes" "-1_0") ['-'] 10 "1_0".toList
      (.sign rfl rfl _) (by simp)
    have denotes : Denotes 10 (digitsAt "1_0".toList) 10 :=
      ⟨[1, 0], .cons ⟨by decide, by decide⟩ (.cons ⟨by decide, by decide⟩ .nil), by decide⟩
    exact ((read rfl (by decide)).1 (-10)).2 ⟨10, denotes, rfl⟩
  · obtain ⟨-, -, -, read⟩ := reads (Cursor.ofText "notes" "2.5") [] 10 "2.5".toList
      (.digit rfl (by decide)) (by simp)
    exact read rfl (by decide)
  · exact decimals (-10) "-1_0".toList [.blank, numbers] "notes" (by decide) rfl
  · exact announced 5 'b' 2 "1_01".toList [.blank, numbers] "notes" (by decide) rfl
      (.cons (.inl rfl) (.cons (.inl rfl) (.cons (.inl rfl) .nil))) rfl

end Lexical.Recognizer
