import Lexical.Proofs.Json.Grammar

/-! Strings of a JSON text. However its characters are written, a string is read as what it stands
for; and a string that is well formed is passed over as a whole, whatever its escapes name.
-/

namespace Lexical.Json

variable {text digits item rest soFar : List Char} {c letter : Char} {unit : Nat}

-----------------------------------------------------------------------------------------
-- Four hexadecimal digits
-----------------------------------------------------------------------------------------

theorem hexDigit?_of_isDigit {digit : Nat} (isDigit : Numeral.IsDigit 16 c digit)
    : Reader.hexDigit? c = some digit := by
  have checked : ∀ digit : Fin 16,
      Reader.hexDigit? (Nat.digitChar digit) = some digit.val
      ∧ Reader.hexDigit? (Nat.digitChar digit).toUpper = some digit.val := by
    decide
  obtain ⟨lower, upper⟩ := checked ⟨digit, isDigit.below⟩
  rcases isDigit.written with rfl | rfl
  · exact lower
  · exact upper

/-- The digits one by one, the first of them counting most. -/
theorem HexUnit.exists_digits (h : HexUnit digits unit)
    : ∃ a b c d i j k l,
        digits = [a, b, c, d]
        ∧ Numeral.IsDigit 16 a i
        ∧ Numeral.IsDigit 16 b j
        ∧ Numeral.IsDigit 16 c k
        ∧ Numeral.IsDigit 16 d l
        ∧ unit = 16 * (16 * (16 * i + j) + k) + l := by
  obtain ⟨length, values, written, hunit⟩ := h
  match digits, length, written with
  | [a, b, c, d], _, .cons ha (.cons hb (.cons hc (.cons hd .nil))) =>
      refine ⟨a, b, c, d, _, _, _, _, rfl, ha, hb, hc, hd, ?_⟩
      rw [← hunit]
      simp only [List.reverse_cons, List.reverse_nil, List.nil_append, List.cons_append,
        Nat.ofDigits_cons, Nat.ofDigits_nil]
      ring

theorem HexUnit.read (h : HexUnit digits unit) (rest : List Char)
    : Reader.hexUnit (digits ++ rest) = .ok unit := by
  obtain ⟨a, b, c, d, i, j, k, l, rfl, ha, hb, hc, hd, rfl⟩ := h.exists_digits
  simp only [List.cons_append, List.nil_append, Reader.hexUnit, hexDigit?_of_isDigit ha,
    hexDigit?_of_isDigit hb, hexDigit?_of_isDigit hc, hexDigit?_of_isDigit hd]

theorem HexUnit.drop (h : HexUnit digits unit) (rest : List Char)
    : (digits ++ rest).drop 4 = rest := by
  rw [← h.length, List.drop_left]

-----------------------------------------------------------------------------------------
-- Strings that stand for something
-----------------------------------------------------------------------------------------

theorem letterEscape?_of_mem (listed : (letter, c) ∈ letterEscapes)
    : Reader.letterEscape? letter = some c := by
  have checked : ∀ pair ∈ letterEscapes, Reader.letterEscape? pair.1 = some pair.2 := by
    decide
  exact checked _ listed

theorem ne_of_mem_letterEscapes (listed : (letter, c) ∈ letterEscapes) : letter ≠ 'u' := by
  have checked : ∀ pair ∈ letterEscapes, pair.1 ≠ 'u' := by
    decide
  exact checked _ listed

/-- No character is half of a pair. -/
theorem not_surrogate (c : Char)
    : Reader.isLowSurrogate c.toNat = false ∧ Reader.isHighSurrogate c.toNat = false := by
  have valid : c.toNat < 0xD800 ∨ 0xDFFF < c.toNat ∧ c.toNat < 0x110000 := c.valid
  simp only [Reader.isLowSurrogate, Reader.isHighSurrogate, Bool.and_eq_false_iff,
    decide_eq_false_iff_not]
  omega

/-- The second half of a pair is read if it is one. -/
theorem HexUnit.secondHalf (h : HexUnit digits unit) (low : Reader.isLowSurrogate unit)
    (rest : List Char)
    : Reader.secondHalf ('\\' :: 'u' :: (digits ++ rest)) = .ok unit := by
  rw [Reader.secondHalf, h.read]
  exact if_pos low

/-- However a character is written, it is read as one character more. -/
theorem WritesChar.read (h : WritesChar c item) (soFar rest : List Char)
    : Reader.stringOnto soFar (item ++ rest) = Reader.stringOnto (c :: soFar) rest := by
  cases h with
  | plain printable noQuote noBackslash =>
      have noControl : ¬c < ' ' := Char.not_lt.2 printable
      rw [List.cons_append, List.nil_append, Reader.stringOnto, if_neg noControl]
      all_goals simp [noQuote, noBackslash]
  | letter listed =>
      have noUnit := ne_of_mem_letterEscapes listed
      rw [List.cons_append, List.cons_append, List.nil_append, Reader.stringOnto,
        letterEscape?_of_mem listed]
      simpa using noUnit
  | unit number =>
      obtain ⟨noLow, noHigh⟩ := not_surrogate c
      rw [List.cons_append, List.cons_append, Reader.stringOnto, number.read]
      simp only [noLow, noHigh, number.drop, Bool.false_eq_true, if_false, Char.ofNat_toNat]
  | @pair first second offset number high low =>
      have valid : c.toNat < 0xD800 ∨ 0xDFFF < c.toNat ∧ c.toNat < 0x110000 := c.valid
      have noLow : Reader.isLowSurrogate (0xD800 + offset / 0x400) = false := by
        simp only [Reader.isLowSurrogate, Bool.and_eq_false_iff, decide_eq_false_iff_not]
        omega
      have isHigh : Reader.isHighSurrogate (0xD800 + offset / 0x400) = true := by
        simp only [Reader.isHighSurrogate, Bool.and_eq_true, decide_eq_true_eq]
        omega
      have isLow : Reader.isLowSurrogate (0xDC00 + offset % 0x400) = true := by
        simp only [Reader.isLowSurrogate, Bool.and_eq_true, decide_eq_true_eq]
        omega
      have hcode : 0x10000 + 0x400 * (0xD800 + offset / 0x400 - 0xD800)
          + (0xDC00 + offset % 0x400 - 0xDC00) = c.toNat := by
        omega
      have hdrop : (first ++ '\\' :: 'u' :: (second ++ rest)).drop 10 = rest := by
        rw [show 10 = 4 + (2 + 4) from rfl, ← List.drop_drop, high.drop, ← List.drop_drop]
        exact low.drop rest
      simp only [List.cons_append, List.append_assoc]
      rw [Reader.stringOnto, high.read]
      simp only [noLow, isHigh, high.drop, low.secondHalf isLow, hcode, hdrop, Bool.false_eq_true,
        if_false, if_true, Char.ofNat_toNat]

/-- The characters of a string are read one after the other, by induction over them. -/
theorem stringOnto_of_writesChar {value : List Char} {items : List (List Char)}
    (written : List.Forall₂ WritesChar value items) (soFar rest : List Char)
    : Reader.stringOnto soFar (items.flatten ++ rest)
      = Reader.stringOnto (value.reverse ++ soFar) rest := by
  induction written generalizing soFar with
  | nil => rfl
  | cons h _ ih =>
      rw [List.flatten_cons, List.append_assoc, h.read, ih, List.reverse_cons, List.append_assoc]
      rfl

/-- Behind its opening quote a string is read as what it stands for. -/
theorem WritesString.exists_body {value : String} (h : WritesString value text)
    : ∃ body,
        text = '"' :: body
        ∧ ∀ rest, Reader.stringBody.run (body ++ rest) = .ok (value, rest) := by
  obtain ⟨written⟩ := h
  refine ⟨_, rfl, fun rest => ?_⟩
  show Reader.stringOnto [] _ = _
  rw [List.append_assoc, stringOnto_of_writesChar written, List.append_nil]
  show Reader.stringOnto _ ('"' :: rest) = _
  rw [Reader.stringOnto, List.reverse_reverse, String.ofList_toList]

-----------------------------------------------------------------------------------------
-- Strings that are passed over
-----------------------------------------------------------------------------------------

theorem StringItem.pass (h : StringItem item) (rest : List Char)
    : Reader.skipStringBody (item ++ rest) = Reader.skipStringBody rest := by
  cases h with
  | @plain c printable noQuote noBackslash =>
      have noControl : ¬c < ' ' := Char.not_lt.2 printable
      rw [List.cons_append, List.nil_append, Reader.skipStringBody, if_neg noControl]
      all_goals simp [noQuote, noBackslash]
  | letter listed =>
      have noUnit := ne_of_mem_letterEscapes listed
      rw [List.cons_append, List.cons_append, List.nil_append, Reader.skipStringBody,
        letterEscape?_of_mem listed]
      · rfl
      · simpa using noUnit
  | unit number =>
      rw [List.cons_append, List.cons_append, Reader.skipStringBody, number.read]
      simp only [number.drop]

/-- Behind its opening quote a string is passed over, by induction over what stands in it. -/
theorem IsString.exists_body (h : IsString text)
    : ∃ body,
        text = '"' :: body
        ∧ ∀ rest, Reader.skipStringBody (body ++ rest) = .ok ((), rest) := by
  obtain @⟨items, written⟩ := h
  refine ⟨_, rfl, fun rest => ?_⟩
  induction items with
  | nil => rw [List.flatten_nil, List.nil_append, List.cons_append, Reader.skipStringBody]; rfl
  | cons item items ih =>
      obtain ⟨hitem, others⟩ := List.forall_mem_cons.1 written
      rw [List.flatten_cons, List.append_assoc, List.append_assoc, hitem.pass,
        ← List.append_assoc]
      exact ih others

end Lexical.Json
