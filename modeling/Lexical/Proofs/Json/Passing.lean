import Lexical.Proofs.Json.NumberText

/-! Values that are passed over. Every text that is well formed is, however deep its lists and
objects are, since the brackets that are open are kept in a list; and each value takes no more steps
than it has characters.
-/

namespace Lexical.Json

open Reader

variable {text rest before : List Char} {c : Char} {bracket : Bracket} {outer : List Bracket}

-----------------------------------------------------------------------------------------
-- Brackets
-----------------------------------------------------------------------------------------

theorem Reader.Bracket.isBlank_closing (bracket : Bracket)
    : isBlank bracket.closing = false ∧ bracket.closing ≠ ',' := by
  cases bracket <;> decide

namespace Reader

theorem ignoresBlanks_colon : IgnoresBlanks colon :=
  (ignoresBlanks_peekIn .object).bind _

theorem run_colon : colon.run (':' :: rest) = .ok ((), rest) := by
  rw [colon, run_bind_of_run (run_peekIn .object rfl)]
  rfl

theorem ignoresBlanks_skipKey : IgnoresBlanks (skipKey .object) :=
  (ignoresBlanks_peekIn .object).bind _

/-- A key is passed over together with its colon. -/
theorem run_skipKey {key : List Char} (string : IsString key) (middle : Blanks before)
    : (skipKey .object).run (key ++ (before ++ ':' :: rest)) = .ok ((), rest) := by
  obtain ⟨body, rfl, hbody⟩ := string.exists_body
  rw [skipKey, List.cons_append, run_bind_of_run (run_peekIn .object rfl), if_pos rfl,
    run_bind_of_run run_skip]
  refine (run_bind_of_run (hbody _)).trans ?_
  rw [ignoresBlanks_colon before _ middle, run_colon]

/-- What is still passed over within the brackets that are open. -/
def passOn (fuel : Nat) : List Bracket → Reader Unit
  | [] => pure ()
  | outer => skipValues fuel outer

/-- Up to where a value is expected next inside a bracket, and then on from there. -/
def passItems (bracket : Bracket) (fuel : Nat) (outer : List Bracket) : Reader Unit :=
  skipKey bracket *> skipValues fuel (bracket :: outer)

theorem skipValues_succ (fuel : Nat) (outer : List Bracket)
    : skipValues (fuel + 1) outer = skipOpening outer >>= passOn fuel := by
  rfl

theorem ignoresBlanks_skipValues (fuel : Nat) (outer : List Bracket)
    : IgnoresBlanks (skipValues (fuel + 1) outer) := by
  rw [skipValues_succ]
  exact ((ignoresBlanks_peekIn .value).bind _).bind _

theorem ignoresBlanks_passItems (bracket : Bracket) (fuel : Nat) (outer : List Bracket)
    : IgnoresBlanks (passItems bracket (fuel + 1) outer) := by
  cases bracket with
  | list => exact ignoresBlanks_skipValues fuel _
  | object => exact ignoresBlanks_skipKey.bind _

theorem ignoresBlanks_skipClosings (bracket : Bracket) (outer : List Bracket)
    (behindValue : Bool)
    : IgnoresBlanks (skipClosings (bracket :: outer) behindValue) := by
  rw [skipClosings]
  exact (ignoresBlanks_peekIn _).bind _

/-- A bracket is closed behind a value, or where there is none. -/
theorem run_skipClosings_closing (behindValue : Bool)
    : (skipClosings (bracket :: outer) behindValue).run (bracket.closing :: rest)
      = (skipClosings outer true).run rest := by
  obtain ⟨noBlank, noComma⟩ := bracket.isBlank_closing
  rw [skipClosings, run_bind_of_run (run_peekIn _ noBlank)]
  simp only [noComma, and_false, if_false, if_true]
  rw [run_bind_of_run run_skip]

theorem skipKey_passOn (bracket : Bracket) (fuel : Nat) (outer : List Bracket)
    : (skipKey bracket *> pure (bracket :: outer)) >>= passOn fuel
      = passItems bracket fuel outer := by
  simp only [passItems, seqRight_eq_bind, bind_assoc, pure_bind]
  rfl

/-- Behind a value a comma leads on to the next one. -/
theorem run_skipClosings_comma (fuel : Nat)
    : (skipClosings (bracket :: outer) true >>= passOn fuel).run (',' :: rest)
      = (passItems bracket fuel outer).run rest := by
  have hstep : (skipClosings (bracket :: outer) true).run (',' :: rest)
      = (skipKey bracket *> pure (bracket :: outer) : Reader _).run rest := by
    rw [skipClosings, run_bind_of_run (run_peekIn _ (by decide))]
    simp only [and_self, if_true]
    rw [run_bind_of_run run_skip]
    rfl
  rw [StateT.run_bind, hstep, ← StateT.run_bind, skipKey_passOn]

/-- The first value of a list or object is no closing bracket. -/
theorem run_skipClosings_first (fuel : Nat) (begins : isBlank c = false)
    (noClosing : c ≠ bracket.closing)
    : (skipClosings (bracket :: outer) false >>= passOn fuel).run (c :: rest)
      = (passItems bracket fuel outer).run (c :: rest) := by
  have hstep : (skipClosings (bracket :: outer) false).run (c :: rest)
      = (skipKey bracket *> pure (bracket :: outer) : Reader _).run (c :: rest) := by
    rw [skipClosings, run_bind_of_run (run_peekIn _ begins)]
    simp only [Bool.false_eq_true, false_and, if_false, noClosing]
    rfl
  rw [StateT.run_bind, hstep, ← StateT.run_bind, skipKey_passOn]

end Reader

-----------------------------------------------------------------------------------------
-- Values and items
-----------------------------------------------------------------------------------------

/-- The text is passed over as a value, whatever brackets are open and whatever ends it, in no more
steps than it has characters.
-/
structure Passes (text : List Char) : Prop where
  begins : Begins text
  run
    : ∀ rest outer fuel,
        NumberEnds rest
        → text.length ≤ fuel
        → ∃ left,
            fuel ≤ left + text.length
            ∧ (skipValues fuel outer).run (text ++ rest)
              = (skipClosings outer true >>= passOn left).run rest

/-- The text is passed over as an item inside a bracket, with the blanks around it. -/
structure PassesItem (bracket : Bracket) (text : List Char) : Prop where
  begins : ∃ before others, text = before ++ others ∧ Blanks before ∧ Begins others
  run
    : ∀ rest outer fuel,
        NumberEnds rest
        → text.length ≤ fuel
        → ∃ left,
            fuel ≤ left + text.length
            ∧ (passItems bracket fuel outer).run (text ++ rest)
              = (skipClosings (bracket :: outer) true >>= passOn left).run rest

/-- A text takes a single step if that leads up to the brackets behind it. -/
theorem Passes.of_opening (begins : Begins text)
    (h
      : ∀ rest outer,
          NumberEnds rest
          → (skipOpening outer).run (text ++ rest) = (skipClosings outer true).run rest)
    : Passes text := by
  refine ⟨begins, ?_⟩
  intro rest outer fuel ends enough
  obtain ⟨c, others, rfl, -⟩ := begins
  cases fuel with
  | zero => cases enough
  | succ left =>
      refine ⟨left, Nat.add_le_add_left (Nat.le_add_left ..) left, ?_⟩
      rw [skipValues_succ, StateT.run_bind, h rest outer ends, ← StateT.run_bind]

theorem passes_word (listed : text ∈ ["null".toList, "true".toList, "false".toList])
    : Passes text := by
  have hpeek (c : Char) (rest : List Char) (begins : isBlank c = false)
      : (peekIn .value).run (c :: rest) = .ok (c, c :: rest) :=
    run_peekIn .value begins
  simp only [List.mem_cons, List.not_mem_nil, or_false] at listed
  rcases listed with rfl | rfl | rfl
  · refine .of_opening ⟨'n', _, rfl, by decide⟩ fun rest outer _ => ?_
    refine (run_bind_of_run (hpeek 'n' _ rfl)).trans ?_
    exact run_seqRight_of_run (run_word "null".toList rest)
  · refine .of_opening ⟨'t', _, rfl, by decide⟩ fun rest outer _ => ?_
    refine (run_bind_of_run (hpeek 't' _ rfl)).trans ?_
    exact run_seqRight_of_run (run_word "true".toList rest)
  · refine .of_opening ⟨'f', _, rfl, by decide⟩ fun rest outer _ => ?_
    refine (run_bind_of_run (hpeek 'f' _ rfl)).trans ?_
    exact run_seqRight_of_run (run_word "false".toList rest)

theorem IsString.passes (string : IsString text) : Passes text := by
  obtain ⟨body, rfl, hbody⟩ := string.exists_body
  refine .of_opening ⟨'"', body, rfl, by decide⟩ fun rest outer _ => ?_
  have hstring : (skip *> (skipStringBody : Reader Unit)).run ('"' :: (body ++ rest))
      = .ok ((), rest) :=
    (run_seqRight_of_run run_skip).trans (hbody rest)
  rw [List.cons_append, skipOpening, run_bind_of_run (run_peekIn .value rfl)]
  exact run_seqRight_of_run hstring

theorem Whole.exists_digit (whole : Whole text)
    : ∃ c others, text = c :: others ∧ c.isDigit := by
  cases whole with
  | zero => exact ⟨'0', [], rfl, rfl⟩
  | other isDigits positive =>
      cases text with
      | nil => exact absurd rfl isDigits.nonempty
      | cons c others => exact ⟨c, others, rfl, isDigits.all c List.mem_cons_self⟩

theorem begins_of_isDigit (isDigit : c.isDigit)
    : isBlank c = false ∧ c ∉ [',', ']', '\x7d'] := by
  have checked : ∀ d ∈ [' ', '\n', '\t', '\r', ',', ']', '\x7d'], d.isDigit = false := by
    simp
  have other : c ∉ [' ', '\n', '\t', '\r', ',', ']', '\x7d'] := by
    intro member
    rw [checked c member] at isDigit
    cases isDigit
  simp only [List.mem_cons, List.not_mem_nil, or_false, not_or] at other
  simp [isBlank, other]

theorem IsNumber.passes (number : IsNumber text) : Passes text := by
  obtain @⟨sign, first, second, third, signed, whole, isFraction, isExponent⟩ := number
  have hskip {rest : List Char} (ends : NumberEnds rest)
      : skipNumber.run (first ++ (second ++ third) ++ rest) = .ok ((), rest) := by
    rw [List.append_assoc, List.append_assoc]
    exact run_skipNumber whole isFraction isExponent ends
  simp only [List.mem_cons, List.not_mem_nil, or_false] at signed
  rcases signed with rfl | rfl
  · obtain ⟨c, others, rfl, isDigit⟩ := whole.exists_digit
    obtain ⟨noBlank, other⟩ := begins_of_isDigit isDigit
    refine .of_opening ⟨c, _, rfl, noBlank, other⟩ fun rest outer ends => ?_
    refine (run_bind_of_run (run_peekIn .value noBlank)).trans ?_
    split <;> try contradiction
    rw [if_pos isDigit]
    exact run_seqRight_of_run (hskip ends)
  · refine .of_opening ⟨'-', _, rfl, by decide⟩ fun rest outer ends => ?_
    refine (run_bind_of_run (run_peekIn .value rfl)).trans ?_
    have hnumber : (skip *> skipNumber).run ('-' :: (first ++ (second ++ third) ++ rest))
        = .ok ((), rest) :=
      (run_seqRight_of_run run_skip).trans (hskip ends)
    exact run_seqRight_of_run hnumber

/-- Blanks around a value do not matter inside a bracket. Those before it need a step to be passed
over, which the value has.
-/
theorem Passes.padded {padded : List Char} (passes : Passes text) (written : Padded text padded)
    (bracket : Bracket) (outer : List Bracket) (fuel : Nat) (ends : NumberEnds rest)
    (enough : padded.length ≤ fuel)
    : ∃ left,
        fuel ≤ left + padded.length
        ∧ (skipValues fuel (bracket :: outer)).run (padded ++ rest)
          = (skipClosings (bracket :: outer) true >>= passOn left).run rest := by
  have hpos := passes.begins.length_pos
  obtain @⟨before, after, leading, trailing⟩ := written
  simp only [List.length_append] at enough ⊢
  obtain ⟨left, spent, hrun⟩ := passes.run (after ++ rest) (bracket :: outer) fuel
    (trailing.numberEnds ends) (by omega)
  obtain ⟨steps, rfl⟩ : ∃ steps, fuel = steps + 1 := ⟨fuel - 1, by omega⟩
  have hclosings := (ignoresBlanks_skipClosings bracket outer true).bind (passOn left)
  refine ⟨left, by omega, ?_⟩
  rw [List.append_assoc, List.append_assoc,
    ignoresBlanks_skipValues steps (bracket :: outer) before _ leading, hrun,
    hclosings after rest trailing]

theorem Padded.begins {padded : List Char} (written : Padded text padded) (begins : Begins text)
    : ∃ before others, padded = before ++ others ∧ Blanks before ∧ Begins others := by
  obtain @⟨before, after, leading, -⟩ := written
  exact ⟨before, text ++ after, rfl, leading, begins.append after⟩

/-- A value with blanks around it is an item of a list. -/
theorem Passes.item {padded : List Char} (passes : Passes text) (written : Padded text padded)
    : PassesItem .list padded :=
  ⟨written.begins passes.begins,
    fun _ outer fuel ends enough => passes.padded written .list outer fuel ends enough⟩

/-- A key, a colon and a value is an item of an object. -/
theorem Passes.member {key written : List Char} (passes : Passes text) (string : IsString key)
    (member : Member Eq (key, text) written)
    : PassesItem .object written := by
  obtain @⟨before, _, between, value, leading, rfl, middle, padded⟩ := member
  refine ⟨⟨before, _, rfl, leading, string.passes.begins.append _⟩, ?_⟩
  intro rest outer fuel ends enough
  simp only [List.length_append, List.length_cons] at enough ⊢
  obtain ⟨left, spent, hrun⟩ := passes.padded padded .object outer fuel ends (by omega)
  refine ⟨left, by omega, ?_⟩
  have hkey : (skipKey .object).run (before ++ (key ++ (between ++ ':' :: value)) ++ rest)
      = .ok ((), value ++ rest) := by
    simp only [List.append_assoc, List.cons_append]
    rw [ignoresBlanks_skipKey before _ leading]
    exact run_skipKey string middle
  rw [passItems, run_seqRight_of_run hkey, hrun]

-----------------------------------------------------------------------------------------
-- Lists and objects
-----------------------------------------------------------------------------------------

/-- Inside brackets, a row of items begins with no closing one. -/
theorem Row.begins {α : Type} {Item : α → List Char → Prop} {items : List α}
    (row : Row Item items text)
    (passes : ∀ item ∈ items, ∀ written, Item item written → PassesItem bracket written)
    : ∃ before c others,
        text = before ++ c :: others
        ∧ Blanks before
        ∧ isBlank c = false
        ∧ c ≠ bracket.closing := by
  obtain ⟨item, first, behind, member, written, rfl⟩
      : ∃ item first behind, item ∈ items ∧ Item item first ∧ text = first ++ behind := by
    cases row with
    | last written => exact ⟨_, _, [], List.mem_cons_self, written, (List.append_nil _).symm⟩
    | cons written _ => exact ⟨_, _, _, List.mem_cons_self, written, rfl⟩
  obtain ⟨before, others, rfl, blanks, c, others, rfl, noBlank, other⟩ :=
    (passes item member first written).begins
  refine ⟨before, c, others ++ behind, List.append_assoc .., blanks, noBlank, ?_⟩
  exact fun same => other (same ▸ bracket.closing_mem)

/-- A row of items is passed over up to the closing bracket, by induction over the row: behind an
item comes the bracket, or a comma and the other items.
-/
theorem Row.passes {α : Type} {Item : α → List Char → Prop} {items : List α}
    (row : Row Item items text)
    (passes : ∀ item ∈ items, ∀ written, Item item written → PassesItem bracket written)
    (rest : List Char) (outer : List Bracket) (fuel : Nat) (enough : text.length ≤ fuel)
    : ∃ left,
        fuel ≤ left + text.length
        ∧ (passItems bracket fuel outer).run (text ++ bracket.closing :: rest)
          = (skipClosings outer true >>= passOn left).run rest := by
  induction row generalizing fuel with
  | last written =>
      obtain ⟨left, spent, hrun⟩ := (passes _ List.mem_cons_self _ written).run
        (bracket.closing :: rest) outer fuel (numberEnds_of_mem bracket.closing_mem) enough
      refine ⟨left, spent, ?_⟩
      rw [hrun, StateT.run_bind, run_skipClosings_closing, ← StateT.run_bind]
  | @cons item text others row written behind ih =>
      obtain ⟨first, others⟩ := List.forall_mem_cons.1 passes
      simp only [List.length_append, List.length_cons] at enough ⊢
      obtain ⟨between, spent, hrun⟩ := (first _ written).run
        (',' :: (row ++ bracket.closing :: rest)) outer fuel (numberEnds_of_mem (by decide))
        (by omega)
      obtain ⟨left, spent', hothers⟩ := ih others between (by omega)
      refine ⟨left, by omega, ?_⟩
      rw [List.append_assoc, List.cons_append, hrun, run_skipClosings_comma, hothers]

theorem run_skipOpening_bracket
    : (skipOpening outer).run (bracket.opening :: rest)
      = (skipClosings (bracket :: outer) false).run rest := by
  cases bracket with
  | list =>
      refine (run_bind_of_run (run_peekIn .value rfl)).trans ?_
      exact run_seqRight_of_run run_skip
  | object =>
      refine (run_bind_of_run (run_peekIn .value rfl)).trans ?_
      exact run_seqRight_of_run run_skip

theorem begins_opening : Begins (bracket.opening :: rest) := by
  cases bracket with
  | list => exact ⟨'[', rest, rfl, by decide⟩
  | object => exact ⟨'\x7b', rest, rfl, by decide⟩

/-- Blanks before an item do not matter to it, if it may take a step. -/
theorem run_passItems_blanks {fuel : Nat} (blanks : Blanks before) (enough : 0 < fuel)
    : (passItems bracket fuel outer).run (before ++ rest)
      = (passItems bracket fuel outer).run rest := by
  cases fuel with
  | zero => cases enough
  | succ fuel => exact ignoresBlanks_passItems bracket fuel outer before rest blanks

/-- Items between brackets are passed over as one value. -/
theorem Enclosed.passes {α : Type} {Item : α → List Char → Prop} {items : List α}
    (enclosed : Enclosed bracket Item items text)
    (passes : ∀ item ∈ items, ∀ written, Item item written → PassesItem bracket written)
    : Passes text := by
  cases enclosed with
  | @empty blanks isBlanks =>
      refine .of_opening begins_opening fun rest outer _ => ?_
      rw [List.cons_append, run_skipOpening_bracket, List.append_assoc,
        ignoresBlanks_skipClosings bracket outer false blanks _ isBlanks]
      exact run_skipClosings_closing false
  | @filled _ text row =>
      refine ⟨begins_opening, ?_⟩
      intro rest outer fuel ends enough
      simp only [List.length_cons, List.length_append, List.length_nil] at enough ⊢
      obtain ⟨steps, rfl⟩ : ∃ steps, fuel = steps + 1 := ⟨fuel - 1, by omega⟩
      obtain ⟨left, spent, hrow⟩ := row.passes passes rest outer steps (by omega)
      refine ⟨left, by omega, ?_⟩
      obtain ⟨before, c, others, rfl, leading, noBlank, noClosing⟩ := row.begins passes
      have hclosings := (ignoresBlanks_skipClosings bracket outer false).bind (passOn steps)
      have hpos : 0 < steps := by
        rw [List.length_append, List.length_cons] at enough
        omega
      rw [← hrow, skipValues_succ, StateT.run_bind, List.cons_append, run_skipOpening_bracket,
        ← StateT.run_bind]
      simp only [List.append_assoc, List.cons_append, List.nil_append]
      rw [hclosings before _ leading, run_skipClosings_first steps noBlank noClosing,
        run_passItems_blanks leading hpos]

/-- Every text that is well formed is passed over, by induction over it. -/
theorem WellFormed.passes (h : WellFormed text) : Passes text := by
  induction h with
  | word listed => exact passes_word listed
  | number number => exact number.passes
  | string string => exact string.passes
  | list _ layout ih => exact layout.passes fun item member _ padded => (ih item member).item padded
  | object named _ layout ih =>
      refine layout.passes fun member listed text written => ?_
      exact (ih member listed).member (named member listed) written

/-- A text that is well formed is passed over as it stands, with the blanks before it. -/
theorem WellFormed.run_skipValue (h : WellFormed text) (blanks : Blanks before)
    (ends : NumberEnds rest)
    : skipValue.run (before ++ (text ++ rest)) = .ok ((), rest) := by
  rw [skipValue, run_bind_of_run (run_get _), ignoresBlanks_skipValues _ _ before _ blanks]
  have enough : text.length ≤ (before ++ (text ++ rest)).length + 1 := by
    simp only [List.length_append]
    omega
  obtain ⟨left, -, hrun⟩ := h.passes.run rest [] _ ends enough
  exact hrun

end Lexical.Json
