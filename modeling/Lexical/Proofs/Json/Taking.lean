import Lexical.Proofs.Json.Passing

/-! Data that is taken off a JSON text. What a reader does with the text of a value is stated once,
as `Takes`; and what items in a row come to is derived once, from what each of them does, for the
elements of lists as well as for the members of objects.
-/

namespace Lexical.Json

open Reader

variable {α β σ : Type} {text rest before : List Char} {c : Char}

/-- The reader takes the text off the front as a value, with or without blanks before it and
whatever ends it.
-/
structure Takes (reader : Reader α) (text : List Char) (value : α) : Prop where
  begins : Begins text
  ignoresBlanks : IgnoresBlanks reader
  run : ∀ rest, NumberEnds rest → reader.run (text ++ rest) = .ok (value, rest)

-----------------------------------------------------------------------------------------
-- Single values
-----------------------------------------------------------------------------------------

/-- What is made of a value that is taken is made of its text. -/
theorem Takes.map {reader : Reader α} {value : α} (takes : Takes reader text value) (f : α → β)
    : Takes (do pure (f (← reader))) text (f value) := by
  refine ⟨takes.begins, takes.ignoresBlanks.bind _, ?_⟩
  intro rest ends
  rw [run_bind_of_run (takes.run rest ends)]
  rfl

theorem takes_bool {value : Bool} (written : Writes (.bool value) text)
    : Takes Reader.bool text value := by
  have ignores : IgnoresBlanks Reader.bool := (ignoresBlanks_peekIn .value).bind _
  cases written with
  | bool value =>
      cases value with
      | true =>
          refine ⟨⟨'t', _, rfl, by decide⟩, ignores, fun rest _ => ?_⟩
          refine (run_bind_of_run (run_peekIn (c := 't') .value rfl)).trans ?_
          exact run_seqRight_of_run (run_word "true".toList rest)
      | false =>
          refine ⟨⟨'f', _, rfl, by decide⟩, ignores, fun rest _ => ?_⟩
          refine (run_bind_of_run (run_peekIn (c := 'f') .value rfl)).trans ?_
          exact run_seqRight_of_run (run_word "false".toList rest)

theorem takes_string {value : String} (written : Writes (.string value) text)
    : Takes Reader.string text value := by
  cases written with
  | string written =>
      obtain ⟨body, rfl, hbody⟩ := written.exists_body
      refine ⟨⟨'"', body, rfl, by decide⟩, (ignoresBlanks_peekIn .value).bind _, ?_⟩
      intro rest _
      rw [Reader.string, List.cons_append, run_bind_of_run (run_peekIn .value rfl)]
      exact (run_seqRight_of_run run_skip).trans (hbody rest)

theorem takes_char (written : Writes (.string (String.singleton c)) text)
    : Takes char text c := by
  cases written with
  | string written =>
      obtain ⟨body, rfl, hbody⟩ := written.exists_body
      refine ⟨⟨'"', body, rfl, by decide⟩, (ignoresBlanks_peekIn .value).bind _, ?_⟩
      intro rest _
      rw [char, List.cons_append, run_bind_of_run (run_peekIn .value rfl)]
      simp only
      rw [run_bind_of_run run_skip, run_bind_of_run (hbody rest), String.toList_singleton]
      rfl

theorem takes_natural {value : Nat} (written : Writes (.natural value) text)
    (fits : value < 2 ^ 64)
    : Takes Reader.natural text value := by
  cases written with
  | natural whole denotes =>
      obtain ⟨c, others, rfl, isDigit⟩ := whole.exists_digit
      obtain ⟨noBlank, other⟩ := begins_of_isDigit isDigit
      have noSign : c ≠ '-' := by
        rintro rfl
        cases isDigit
      have inLimit : value ≤ maxSignificand := Nat.le_of_lt_succ fits
      refine ⟨⟨c, others, rfl, noBlank, other⟩, (ignoresBlanks_peekIn .value).bind _, ?_⟩
      intro rest ends
      have hnumber := run_number whole denotes inLimit ends
      rw [List.cons_append] at hnumber ⊢
      rw [Reader.natural, run_bind_of_run (run_peekIn .value noBlank), if_neg noSign,
        if_pos isDigit, run_bind_of_run hnumber]
      rfl

/-- A value that may be absent is told from the word for none by its first letter. -/
theorem takes_optional {toJson : α → Json} {reader : Reader α} {value? : Option α}
    (written : Writes (optional toJson value?) text)
    (takes
      : ∀ value ∈ value?,
          Writes (toJson value) text → Takes reader text value ∧ text.head? ≠ some 'n')
    : Takes (Reader.optional reader) text value? := by
  have ignores : IgnoresBlanks (Reader.optional reader) := ignoresBlanks_skipBlanks.bind _
  cases value? with
  | none =>
      cases written with
      | null =>
          have hword : "null".toList = 'n' :: "ull".toList := rfl
          refine ⟨⟨'n', "ull".toList, rfl, by decide⟩, ignores, fun rest _ => ?_⟩
          rw [hword, List.cons_append, Reader.optional, run_bind_of_run (run_skipBlanks rfl),
            run_bind_of_run (run_peek _)]
          exact run_seqRight_of_run (run_word "null".toList rest)
  | some value =>
      obtain ⟨⟨begins, -, hrun⟩, other⟩ := takes value rfl written
      refine ⟨begins, ignores, ?_⟩
      obtain ⟨c, others, rfl, noBlank, -⟩ := begins
      intro rest ends
      have hvalue : (some <$> reader).run (c :: others ++ rest) = .ok (some value, rest) := by
        rw [map_eq_pure_bind, run_bind_of_run (hrun rest ends)]
        rfl
      rw [List.cons_append] at hvalue ⊢
      rw [Reader.optional, run_bind_of_run (run_skipBlanks noBlank), run_bind_of_run (run_peek _)]
      split
      · next same => exact absurd same other
      · exact hvalue

-----------------------------------------------------------------------------------------
-- Items in a row
-----------------------------------------------------------------------------------------

/-- What comes before an item: a comma, unless it is the first one. -/
inductive Lead : Bool → List Char → Prop
  | first : Lead true []
  | later : Lead false [',']

/-- What items in a row do to a state, given what each of them does. -/
inductive Steps {ι : Type} (Step : σ → ι → σ → Prop) : σ → List ι → σ → Prop
  | nil (state : σ) : Steps Step state [] state
  | cons {state item between items last} (step : Step state item between)
    (others : Steps Step between items last)
    : Steps Step state (item :: items) last

/-- A reader that goes through the items between brackets, at most so many, and keeps a state. -/
structure GoesThrough {ι : Type} (bracket : Bracket) (Item : ι → List Char → Prop)
    (Step : σ → ι → σ → Prop) (finish : σ → α) (loop : Nat → Bool → σ → Reader α)
    : Prop where
  ignoresBlanks : ∀ fuel first state, IgnoresBlanks (loop (fuel + 1) first state)
  /-- One item more is taken, if there are steps left for it and for what comes behind. -/
  step
    : ∀ {state item next text first lead rest} fuel,
        Step state item next
        → Item item text
        → Lead first lead
        → NumberEnds rest
        → (loop (fuel + 2) first state).run (lead ++ (text ++ rest))
          = (loop (fuel + 1) false next).run rest
  close
    : ∀ fuel first state rest,
        (loop (fuel + 1) first state).run (bracket.closing :: rest)
        = .ok (finish state, bracket.closing :: rest)

section

variable {ι : Type} {bracket : Bracket} {Item : ι → List Char → Prop} {Step : σ → ι → σ → Prop}
  {finish : σ → α} {loop : Nat → Bool → σ → Reader α} {items : List ι} {state last : σ}
  {first : Bool} {lead : List Char}

/-- A row has a comma before each of its items but the first. -/
theorem Row.length_le (row : Row Item items text) : items.length ≤ text.length + 1 := by
  induction row with
  | last written => exact Nat.le_add_left ..
  | cons written behind ih =>
      simp only [List.length_cons, List.length_append]
      omega

/-- Items are gone through up to their end, by induction over the row. As many steps are enough as
there are items, and one more for the end.
-/
theorem GoesThrough.run_row (goes : GoesThrough bracket Item Step finish loop)
    (row : Row Item items text) (steps : Steps Step state items last) (leads : Lead first lead)
    (fuel : Nat) (enough : items.length ≤ fuel) (rest : List Char)
    : (loop (fuel + 1) first state).run (lead ++ (text ++ bracket.closing :: rest))
      = .ok (finish last, bracket.closing :: rest) := by
  induction row generalizing first lead state fuel with
  | last written =>
      obtain ⟨fuel, rfl⟩ : ∃ left, fuel = left + 1 := ⟨fuel - 1, by simp at enough; omega⟩
      cases steps with
      | cons step others =>
          cases others
          rw [goes.step fuel step written leads (numberEnds_of_mem bracket.closing_mem),
            goes.close]
  | cons written behind ih =>
      obtain ⟨fuel, rfl⟩ : ∃ left, fuel = left + 1 := ⟨fuel - 1, by simp at enough; omega⟩
      cases steps with
      | cons step others =>
          rw [List.append_assoc, List.cons_append,
            goes.step fuel step written leads (numberEnds_of_mem (by decide))]
          exact ih others .later fuel (Nat.le_of_succ_le_succ enough)

/-- Between brackets there are steps enough, as a comma comes before each item but the first. -/
theorem GoesThrough.exists_body (goes : GoesThrough bracket Item Step finish loop)
    (enclosed : Enclosed bracket Item items text) (steps : Steps Step state items last)
    : ∃ body,
        text = bracket.opening :: body
        ∧ ∀ rest,
            (loop ((body ++ rest).length + 1) true state).run (body ++ rest)
            = .ok (finish last, bracket.closing :: rest) := by
  cases enclosed with
  | @empty blanks isBlanks =>
      cases steps
      refine ⟨_, rfl, fun rest => ?_⟩
      rw [List.append_assoc, goes.ignoresBlanks _ true state blanks _ isBlanks]
      exact goes.close _ true state rest
  | @filled _ row isRow =>
      refine ⟨_, rfl, fun rest => ?_⟩
      have enough : items.length ≤ (row ++ [bracket.closing] ++ rest).length := by
        have hle := isRow.length_le
        simp only [List.length_append, List.length_cons]
        omega
      have hrow := goes.run_row isRow steps .first _ enough rest
      rw [List.append_assoc] at hrow ⊢
      exact hrow

end

-----------------------------------------------------------------------------------------
-- Lists
-----------------------------------------------------------------------------------------

variable {first : Bool} {lead : List Char} {element : Reader α} {found values : List α}
  {texts : List (List Char)}

theorem run_hasElement (leads : Lead first lead) (blanks : Blanks before) (begins : Begins text)
    : (hasElement first).run (lead ++ (before ++ text)) = .ok (true, text) := by
  obtain ⟨c, others, rfl, noBlank, other⟩ := begins
  have noClosing : c ≠ ']' := by
    rintro rfl
    exact other (by decide)
  cases leads with
  | first =>
      have hpeek : (peekIn .list).run (before ++ c :: others) = .ok (c, c :: others) := by
        rw [ignoresBlanks_peekIn .list before _ blanks, run_peekIn .list noBlank]
      rw [List.nil_append, hasElement, run_bind_of_run hpeek, if_neg noClosing, if_pos rfl]
      rfl
  | later =>
      have hpeek : (peekIn .value).run (before ++ c :: others) = .ok (c, c :: others) := by
        rw [ignoresBlanks_peekIn .value before _ blanks, run_peekIn .value noBlank]
      rw [List.cons_append, List.nil_append, hasElement, run_bind_of_run (run_peekIn .list rfl),
        if_neg (by decide), if_neg (by decide), if_pos rfl, run_bind_of_run run_skip,
        run_bind_of_run hpeek, if_neg noClosing]
      rfl

theorem run_hasElement_closing (first : Bool) (rest : List Char)
    : (hasElement first).run (']' :: rest) = .ok (false, ']' :: rest) := by
  rw [hasElement, run_bind_of_run (run_peekIn .list rfl)]
  rfl

/-- The text is taken as one element more; those already found come the latest first. -/
def TakesMore (element : Reader α) (found : List α) (text : List Char) (more : List α) : Prop :=
  ∃ value, Takes element text value ∧ more = value :: found

theorem elements_goesThrough (element : Reader α)
    : GoesThrough .list Padded (TakesMore element) List.reverse (elements element) := by
  have ignores (fuel : Nat) (first : Bool) (found : List α)
      : IgnoresBlanks (elements element (fuel + 1) first found) :=
    ((ignoresBlanks_peekIn .list).bind _).bind _
  refine ⟨ignores, ?step, ?close⟩
  case step =>
    rintro found text _ written first lead rest fuel ⟨value, takes, rfl⟩ padded leads ends
    obtain @⟨before, after, leading, trailing⟩ := padded
    have hmore : (hasElement first).run (lead ++ (before ++ (text ++ after) ++ rest))
        = .ok (true, text ++ (after ++ rest)) := by
      rw [List.append_assoc, List.append_assoc]
      exact run_hasElement leads leading (takes.begins.append _)
    rw [elements, run_bind_of_run hmore, if_pos rfl,
      run_bind_of_run (takes.run _ (trailing.numberEnds ends)),
      ignores fuel false (value :: found) after rest trailing]
  case close =>
    intro fuel first found rest
    rw [elements]
    exact run_bind_of_run (run_hasElement_closing first rest)

theorem steps_takesMore (found : List α)
    (takes : List.Forall₂ (fun text value => Takes element text value) texts values)
    : Steps (TakesMore element) found texts (values.reverse ++ found) := by
  induction takes generalizing found with
  | nil => exact .nil found
  | @cons _ value _ values h _ ih =>
      have hothers := ih (value :: found)
      rw [List.reverse_cons, List.append_assoc]
      exact .cons ⟨value, h, rfl⟩ hothers

theorem run_endList (rest : List Char) : endList.run (']' :: rest) = .ok ((), rest) := by
  rw [endList, run_bind_of_run (run_peekIn .list rfl)]
  rfl

theorem takes_list (enclosed : Enclosed .list Padded texts text)
    (takes : List.Forall₂ (fun text value => Takes element text value) texts values)
    : Takes (Reader.list element) text values := by
  obtain ⟨body, rfl, helements⟩ :=
    (elements_goesThrough element).exists_body enclosed (steps_takesMore [] takes)
  rw [List.append_nil, List.reverse_reverse] at helements
  refine ⟨⟨'[', body, rfl, by decide⟩, (ignoresBlanks_peekIn .value).bind _, fun rest _ => ?_⟩
  rw [List.cons_append]
  refine (run_bind_of_run (run_peekIn .value rfl)).trans ?_
  refine (run_bind_of_run run_skip).trans ?_
  rw [run_bind_of_run (run_get _), run_bind_of_run (helements rest)]
  exact run_bind_of_run (run_endList rest)

/-- A list is taken if each of its elements is, whichever of its texts comes. -/
theorem takes_list_of_writes {toJson : α → Json}
    (written : Writes (.list (values.map toJson)) text)
    (takes : ∀ value ∈ values, ∀ text, Writes (toJson value) text → Takes element text value)
    : Takes (Reader.list element) text values := by
  cases written with
  | list written layout =>
      rw [List.forall₂_map_left_iff] at written
      have hitems := (List.forall₂_and_left values _).2 ⟨takes, written⟩
      exact takes_list layout (hitems.imp fun _ text h => h.1 text h.2).flip

-----------------------------------------------------------------------------------------
-- Whole texts
-----------------------------------------------------------------------------------------

/-- A text that holds nothing but the value and blanks around it is taken whole. -/
theorem Takes.whole {reader : Reader α} {inner : List Char} {value : α}
    (takes : Takes reader inner value) (padded : Padded inner text)
    : Reader.whole reader (String.ofList text) = .ok value := by
  obtain @⟨before, after, leading, trailing⟩ := padded
  have ends : NumberEnds after := List.append_nil after ▸ trailing.numberEnds numberEnds_nil
  have hvalue : reader.run (before ++ (inner ++ after)) = .ok (value, after) := by
    rw [takes.ignoresBlanks before _ leading, takes.run after ends]
  have hafter : skipBlanks.run after = .ok ((), []) := by
    have hskip := ignoresBlanks_skipBlanks after [] trailing
    rwa [List.append_nil] at hskip
  rw [Reader.whole, String.toList_ofList, run_bind_of_run hvalue, run_bind_of_run hafter]
  rfl

end Lexical.Json
