import Lexical.Proofs.Json.Grammar

/-! The text that a value is rendered as stands for the value, whatever characters its strings are
made of.
-/

namespace Lexical.Json

variable {members : List (String × Json)} {texts : List (List Char)} {text : List Char}

-----------------------------------------------------------------------------------------
-- Strings
-----------------------------------------------------------------------------------------

/-- The number of a control character has two digits, and two zeros come before them. -/
theorem hexUnit_of_control {code : Nat} (control : code < 32)
    : HexUnit ['0', '0', Nat.digitChar (code / 16), Nat.digitChar (code % 16)] code := by
  refine ⟨rfl, [0, 0, code / 16, code % 16], ?_, ?_⟩
  · have hzero : Numeral.IsDigit 16 '0' 0 := ⟨by decide, .inl rfl⟩
    have htens : Numeral.IsDigit 16 (code / 16).digitChar (code / 16) := ⟨by omega, .inl rfl⟩
    have hunits : Numeral.IsDigit 16 (code % 16).digitChar (code % 16) := ⟨by omega, .inl rfl⟩
    exact .cons hzero (.cons hzero (.cons htens (.cons hunits .nil)))
  · simp only [List.reverse_cons, List.reverse_nil, List.nil_append, List.cons_append,
      Nat.ofDigits_cons, Nat.ofDigits_nil]
    omega

theorem writesChar_escape (c : Char) : WritesChar c (escape c) := by
  unfold escape
  split
  · next special =>
      apply WritesChar.letter
      rcases special with rfl | rfl
      · decide
      · decide
  · next ordinary =>
      obtain ⟨noQuote, noBackslash⟩ := not_or.1 ordinary
      split_ifs with backspace formFeed lineFeed carriageReturn tab control
      · exact .letter (by rw [backspace]; decide)
      · exact .letter (by rw [formFeed]; decide)
      · exact .letter (by rw [lineFeed]; decide)
      · exact .letter (by rw [carriageReturn]; decide)
      · exact .letter (by rw [tab]; decide)
      · exact .unit (hexUnit_of_control (UInt32.lt_iff_toNat_lt.1 control))
      · exact .plain (Char.not_lt.1 control) noQuote noBackslash

theorem writesString_renderString (value : String)
    : WritesString value (renderString value) := by
  rw [renderString, List.flatMap_def]
  apply WritesString.intro
  rw [List.forall₂_map_right_iff, List.forall₂_same]
  intro c _
  exact writesChar_escape c

-----------------------------------------------------------------------------------------
-- Numbers
-----------------------------------------------------------------------------------------

/-- Only zero has a zero as its first digit, by strong induction as the last digit is split off. -/
theorem head?_toDigits_ne (number : Nat) (positive : 0 < number)
    : (Nat.toDigits 10 number).head? ≠ some '0' := by
  induction number using Nat.strongRecOn with
  | ind number ih =>
      by_cases below : number < 10
      · rw [Nat.toDigits_of_lt_base below, List.head?_cons, Ne, Option.some.injEq,
          Nat.digitChar_eq_zero]
        omega
      · have hless : number / 10 < number := by omega
        have hfirst := ih _ hless (by omega)
        rw [Nat.toDigits_of_base_le (by decide) (Nat.le_of_not_lt below),
          List.head?_append_of_ne_nil _ Nat.toDigits_ne_nil]
        exact hfirst

theorem whole_toDigits (number : Nat) : Whole (Nat.toDigits 10 number) := by
  cases Nat.eq_zero_or_pos number with
  | inl zero =>
      rw [zero]
      exact .zero
  | inr positive =>
      have hdigits : Digits (Nat.toDigits 10 number) :=
        ⟨Nat.toDigits_ne_nil, fun _ => Nat.isDigit_of_mem_toDigits (by decide) (by decide)⟩
      exact .other hdigits (head?_toDigits_ne number positive)

theorem writes_natural (number : Nat)
    : Writes (.natural number) (renderValue (.natural number)) := by
  have hdigits : List.Forall₂ Numeral.InEitherCase (Nat.toDigits 10 number)
      (Nat.toDigits 10 number) :=
    List.forall₂_same.2 fun _ _ => .inl rfl
  rw [renderValue, Nat.toList_repr]
  exact .natural (whole_toDigits number) (Numeral.denotes_of_toDigits (by decide) hdigits)

-----------------------------------------------------------------------------------------
-- Lists and objects
-----------------------------------------------------------------------------------------

theorem blanks_nil : Blanks [] := by
  intro c member
  cases member

theorem padded_self (inner : List Char) : Padded inner inner := by
  have hpadded : Padded inner ([] ++ (inner ++ [])) := .intro blanks_nil blanks_nil
  rwa [List.nil_append, List.append_nil] at hpadded

theorem row_renderItems (item : Json) (others : List Json)
    : Row Padded ((item :: others).map renderValue) (renderItems (item :: others)) := by
  induction others generalizing item with
  | nil => exact .last (padded_self _)
  | cons next others ih => exact .cons (padded_self _) (ih next)

theorem enclosed_renderItems (items : List Json)
    : Enclosed .list Padded (items.map renderValue) (renderValue (.list items)) := by
  rw [renderValue]
  cases items with
  | nil => exact .empty blanks_nil
  | cons item others => exact .filled (row_renderItems item others)

theorem member_render (key : String) (text : List Char)
    : Member WritesString (key, text) (renderString key ++ ':' :: text) := by
  have hmember : Member WritesString (key, text)
      ([] ++ (renderString key ++ ([] ++ ':' :: text))) :=
    .intro blanks_nil (writesString_renderString key) blanks_nil (padded_self _)
  exact hmember

/-- The keys of an object, each with the text of its value. -/
def memberTexts (members : List (String × Json)) : List (String × List Char) :=
  (members.map Prod.fst).zip (members.map fun member => renderValue member.2)

theorem row_renderMembers (key : String) (value : Json) (others : List (String × Json))
    : Row (Member WritesString) (memberTexts ((key, value) :: others))
        (renderMembers ((key, value) :: others)) := by
  induction others generalizing key value with
  | nil => exact .last (member_render key _)
  | cons next others ih => exact .cons (member_render key _) (ih next.1 next.2)

theorem enclosed_renderMembers (members : List (String × Json))
    : Enclosed .object (Member WritesString) (memberTexts members)
        (renderValue (.object members)) := by
  rw [renderValue]
  cases members with
  | nil => exact .empty blanks_nil
  | cons member others => exact .filled (row_renderMembers member.1 member.2 others)

mutual

/-- A value is rendered as a text that stands for it, by induction over the value. -/
theorem writes_renderValue : ∀ value : Json, Writes value (renderValue value)
  | .null => .null
  | .bool value => .bool value
  | .natural value => writes_natural value
  | .string value => .string (writesString_renderString value)
  | .list items => .list (forall₂_writes_items items) (enclosed_renderItems items)
  | .object members => .object (forall₂_writes_members members) (enclosed_renderMembers members)

/-- The elements of a list are rendered as texts that stand for them. -/
theorem forall₂_writes_items
    : ∀ items : List Json, List.Forall₂ Writes items (items.map renderValue)
  | [] => .nil
  | item :: others => .cons (writes_renderValue item) (forall₂_writes_items others)

/-- The values of the members of an object are rendered as texts that stand for them. -/
theorem forall₂_writes_members
    : ∀ members : List (String × Json),
        List.Forall₂ Writes (members.map Prod.snd)
          (members.map fun member => renderValue member.2)
  | [] => .nil
  | (_, value) :: others => .cons (writes_renderValue value) (forall₂_writes_members others)

end

-----------------------------------------------------------------------------------------
-- Objects with nothing left out
-----------------------------------------------------------------------------------------

theorem values_of_writes {Text : String → Json → List Char → Prop}
    (written : List.Forall₂ Writes (members.map Prod.snd) texts)
    (admits
      : ∀ member ∈ members, ∀ text, Writes member.2 text → Text member.1 member.2 text)
    : List.Forall₂ Admits (members.map fun member => (member.1, Text member.1 member.2))
        ((members.map Prod.fst).zip texts) := by
  induction members generalizing texts with
  | nil => exact .nil
  | cons member others ih =>
      obtain ⟨hmember, hothers⟩ := List.forall_mem_cons.1 admits
      cases written with
      | cons hvalue behind => exact .cons ⟨rfl, hmember _ hvalue⟩ (ih behind hothers)

/-- A text that stands for an object leaves nothing out of it. -/
theorem Writes.writesPart {Text : String → Json → List Char → Prop}
    (written : Writes (.object members) text)
    (admits
      : ∀ member ∈ members, ∀ text, Writes member.2 text → Text member.1 member.2 text)
    : WritesPart (.object members) ∅ Text text := by
  have hkept : members.filter (fun member => member.1 ∉ (∅ : Finset String)) = members := by
    simp
  cases written with
  | @object _ texts _ written layout =>
      have hvalues := values_of_writes written admits
      rw [WritesPart, memberList, hkept]
      have arranged : (List.zip (members.map Prod.fst) texts).Perm
          (List.zip (members.map Prod.fst) texts ++ []) :=
        List.Perm.of_eq (List.append_nil _).symm
      exact .intro hvalues (List.forall_mem_nil _) arranged layout

end Lexical.Json
