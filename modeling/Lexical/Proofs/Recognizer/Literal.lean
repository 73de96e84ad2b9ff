import Lexical.Proofs.Cursor.ReadCount
import Lexical.Proofs.Recognizer.Contract
import Lexical.Proofs.Recognizer.Lexeme

/-! Fixed texts. Whether a text comes next can be seen by looking at it as a whole, by looking at
its characters from the last one back to the first, or by consuming it from the first one on: all
three find out whether it begins what remains, and consuming stops behind the first character that
differs.
-/

namespace Lexical

-----------------------------------------------------------------------------------------
-- Looking from the last character back
-----------------------------------------------------------------------------------------

theorem take_succ_eq_iff {α : Type} {first second : List α} {count : Nat}
    : first.take (count + 1) = second.take (count + 1)
      ↔ first.take count = second.take count ∧ first[count]? = second[count]? := by
  constructor
  · intro same
    constructor
    · have hshorter := congrArg (List.take count) same
      rwa [List.take_take, List.take_take, Nat.min_eq_left (Nat.le_succ count)] at hshorter
    · have hlast := congrArg (·[count]?) same
      simpa only [List.getElem?_take_of_lt (Nat.lt_succ_self count)] using hlast
  · rintro ⟨before, last⟩
    rw [List.take_add_one, List.take_add_one, before, last]

namespace Scan

/-- Whether the next characters are so many of the word, by looking at them one by one from the last
of them back to the first, up to one that differs.
-/
def spellsBackward (word : List Char) : Nat → Scan Bool
  | 0 => pure true
  | count + 1 => do
    let found ← peek count
    if found = word[count]? then spellsBackward word count else pure false

/-- Looking back compares as many characters as looking at them at once, and reads on as far: the
first look is at the last character, and the others find theirs ahead. By induction over their
number.
-/
theorem run_spellsBackward {word : List Char} {count : Nat} (inside : count ≤ word.length)
    (c : Cursor)
    : (spellsBackward word count).run c
      = (c.remaining.take count == word.take count, c.fill count) := by
  induction count generalizing c with
  | zero =>
      have hnone : c.fill 0 = c := Cursor.fill_eq_self (Nat.zero_le _)
      rw [hnone]
      rfl
  | succ count ih =>
      have hfound : ((peek count).run c).1 = c.remaining[count]? := c.peek_fst count
      have hfilled : ((peek count).run c).2 = c.fill (count + 1) := rfl
      rw [spellsBackward, run_bind, hfound, hfilled]
      by_cases last : c.remaining[count]? = word[count]?
      · have hsame : (c.remaining.take (count + 1) == word.take (count + 1))
            = (c.remaining.take count == word.take count) := by
          rw [Bool.eq_iff_iff, beq_iff_eq, beq_iff_eq, take_succ_eq_iff, and_iff_left last]
        have hthere : count + 1 ≤ c.remaining.length := by
          rw [List.getElem?_eq_getElem inside] at last
          exact (List.getElem?_eq_some_iff.1 last).1
        have hahead : (c.fill (count + 1)).fill count = c.fill (count + 1) :=
          Cursor.fill_eq_self (Nat.le_of_succ_le (Cursor.le_length_lookahead_fill hthere))
        rw [if_pos last, ih (Nat.le_of_succ_le inside), hahead, hsame,
          (c.resembles_fill (count + 1)).remaining]
      · have hother : (c.remaining.take (count + 1) == word.take (count + 1)) = false := by
          rw [beq_eq_false_iff_ne]
          exact fun same => last (take_succ_eq_iff.1 same).2
        rw [if_neg last, hother]
        rfl

/-- Looking back over a whole word is looking whether it comes next. -/
theorem spellsBackward_eq (word : List Char) : spellsBackward word word.length = spells word := by
  ext c : 1
  rw [run_spellsBackward (Nat.le_refl _), List.take_length]
  show _ = ((c.ahead word.length).1 == word, (c.ahead word.length).2)
  rw [Cursor.ahead_fst]
  rfl

end Scan

-----------------------------------------------------------------------------------------
-- The longest common beginning
-----------------------------------------------------------------------------------------

/-- The longest text that two texts begin with. -/
structure SharedStart (first second shared : List Char) : Prop where
  left : shared <+: first
  right : shared <+: second
  longest : ∀ other, other <+: first → other <+: second → other <+: shared

/-- Two texts have one longest beginning in common, as each of two would begin the other. -/
theorem SharedStart.unique {first second shared shared' : List Char}
    (h : SharedStart first second shared) (h' : SharedStart first second shared')
    : shared = shared' := by
  have hprefix := h'.longest shared h.left h.right
  have hback := h.longest shared' h'.left h'.right
  exact hprefix.eq_of_length (Nat.le_antisymm hprefix.length_le hback.length_le)

namespace Recognizer

/-- What two texts begin with is no longer than what they share, by induction over it. -/
theorem length_le_sharedLength {first second other : List Char} (left : other <+: first)
    (right : other <+: second)
    : other.length ≤ sharedLength first second := by
  induction other generalizing first second with
  | nil => exact Nat.zero_le _
  | cons c rest ih =>
      obtain ⟨first, rfl⟩ := left
      obtain ⟨second, rfl⟩ := right
      rw [List.cons_append, List.cons_append, sharedLength_cons_cons, if_pos rfl, List.length_cons]
      exact Nat.succ_le_succ (ih (List.prefix_append rest first) (List.prefix_append rest second))

/-- Two texts share no more than either of them has. -/
theorem sharedLength_le (first second : List Char)
    : sharedLength first second ≤ min first.length second.length := by
  rw [← List.length_zip]
  exact (List.takeWhile_sublist _).length_le

/-- Two texts begin alike as far as their shared length goes. -/
theorem sharedStart_take (first second : List Char)
    : SharedStart first second (second.take (sharedLength first second)) where
  left := take_sharedLength first second ▸ List.take_prefix _ _
  right := List.take_prefix _ _
  longest other left right := by
    have hlength : other.length ≤ (second.take (sharedLength first second)).length := by
      rw [List.length_take]
      exact Nat.le_min.2 ⟨length_le_sharedLength left right, right.length_le⟩
    exact List.prefix_of_prefix_length_le right (List.take_prefix _ _) hlength

theorem sharedLength_eq_iff {first second : List Char}
    : sharedLength first second = first.length ↔ first <+: second := by
  constructor
  · intro whole
    have hshared := take_sharedLength first second
    rw [whole, List.take_length] at hshared
    exact hshared ▸ List.take_prefix _ _
  · intro begins
    exact sharedLength_of_isPrefixOf (List.isPrefixOf_iff_prefix.2 begins)

-----------------------------------------------------------------------------------------
-- Consuming a fixed text
-----------------------------------------------------------------------------------------

/-- Consuming steps over as much of what remains as the reading of it takes. -/
theorem stepsOver_consume_take (recognizer : Recognizer) (c : Cursor)
    : c.StepsOver (c.remaining.take (recognizer.reading c.origin c.remaining).length)
        (recognizer.consume.run c).2 := by
  apply Cursor.stepsOver_take_of_view
  simp [Scan.view_run, onView_consume]

variable {kind : Kind} {literal : String} {nonempty : literal ≠ ""} {c : Cursor}

/-- Where the text comes next it is consumed, and nothing else is. -/
theorem consume_literal_of_prefix (begins : literal.toList <+: c.remaining)
    : ((Recognizer.literal kind literal nonempty).consume.run c).1
        = .ok (some { kind, value := .text literal })
      ∧ c.StepsOver literal.toList
          ((Recognizer.literal kind literal nonempty).consume.run c).2 := by
  have hshared := sharedLength_eq_iff.2 begins
  have hstep := stepsOver_consume_take (.literal kind literal nonempty) c
  rw [fst_run_consume]
  simp only [reading, literalReading, hshared, String.length_toList, if_true] at hstep ⊢
  rw [← String.length_toList, ← List.prefix_iff_eq_take.1 begins] at hstep
  exact ⟨rfl, hstep⟩

/-- Where the text does not come next, what is there of it is consumed and the character that
differs from it, if there is one.
-/
theorem consume_literal_of_not_prefix (differs : ¬literal.toList <+: c.remaining)
    : ∃ shared,
        SharedStart literal.toList c.remaining shared
        ∧ ((Recognizer.literal kind literal nonempty).consume.run c).1
          = Rule.reject (.literalMismatch literal c.remaining[shared.length]? shared.length)
        ∧ c.StepsOver (shared ++ c.remaining[shared.length]?.toList)
            ((Recognizer.literal kind literal nonempty).consume.run c).2 := by
  have hshared : sharedLength literal.toList c.remaining ≠ literal.length := by
    rw [← String.length_toList]
    exact mt sharedLength_eq_iff.1 differs
  have hwithin : sharedLength literal.toList c.remaining ≤ c.remaining.length :=
    Nat.le_trans (sharedLength_le _ _) (Nat.min_le_right _ _)
  have hstep := stepsOver_consume_take (.literal kind literal nonempty) c
  refine ⟨_, sharedStart_take literal.toList c.remaining, ?_⟩
  rw [fst_run_consume, List.length_take_of_le hwithin]
  simp only [reading, literalReading, if_neg hshared, List.take_add_one] at hstep ⊢
  exact ⟨trivial, hstep⟩

/-- The three ways to find out about a fixed text agree. Looking at it at once, looking at it from
its last character back and asking whether its recognizer can start say whether it begins what
remains, and consuming it succeeds in just this case: then exactly the text is consumed and is the
value of the token. Otherwise consuming fails, as it can only where the recognizer cannot start, at
the end of the longest beginning that the text and the input have in common, which is consumed with
the character behind it, if there is one.
-/
theorem literal_tests_agree (kind : Kind) (literal : String) (nonempty : literal ≠ "")
    (c : Cursor)
    : let recognizer := Recognizer.literal kind literal nonempty
      let begins := literal.toList <+: c.remaining
      let answer := (recognizer.consume.run c).1
      let rest := (recognizer.consume.run c).2
      ((recognizer.canStart.run c).1 ↔ begins)
      ∧ (((Scan.spells literal.toList).run c).1 ↔ begins)
      ∧ Scan.spells literal.toList = Scan.spellsBackward literal.toList literal.length
      ∧ recognizer.canStart = Scan.spellsBackward literal.toList literal.length
      ∧ ((∃ token?, answer = .ok token?) ↔ begins)
      ∧ (begins
          → answer = .ok (some { kind, value := .text literal })
            ∧ c.StepsOver literal.toList rest)
      ∧ (¬begins
          → ∃ shared,
              let received := c.remaining[shared.length]?
              let cause := Error.Cause.literalMismatch literal received shared.length
              SharedStart literal.toList c.remaining shared
              ∧ cause.isLogic
              ∧ answer = .error (.error { cause })
              ∧ c.StepsOver (shared ++ received.toList) rest) := by
  intro recognizer begins answer rest
  have hspells : ((Scan.spells literal.toList).run c).1 ↔ begins := by
    rw [Scan.fst_run, Scan.onView_spells]
    exact List.isPrefixOf_iff_prefix
  have hback := Scan.spellsBackward_eq literal.toList
  rw [String.length_toList] at hback
  have hconsumed (h : begins)
      : answer = .ok (some { kind, value := .text literal }) ∧ c.StepsOver literal.toList rest :=
    consume_literal_of_prefix h
  refine ⟨hspells, hspells, hback.symm, hback.symm, ⟨?_, fun h => ⟨_, (hconsumed h).1⟩⟩,
    hconsumed, ?_⟩
  · rintro ⟨token?, hok⟩
    by_contra differs
    obtain ⟨shared, -, hrejected, -⟩ := consume_literal_of_not_prefix differs
    cases hrejected.symm.trans hok
  · intro differs
    obtain ⟨shared, hshared, hrejected, hstep⟩ := consume_literal_of_not_prefix differs
    exact ⟨shared, hshared, rfl, hrejected, hstep⟩

/-- A word that the input leaves at its third character, which is consumed. -/
theorem while_differs_from_whale
    : let c := Cursor.ofText "notes" "whale"
      ∃ nonempty : "while" ≠ "",
        let recognizer := Recognizer.literal ⟨"loop"⟩ "while" nonempty
        (recognizer.canStart.run c).1 = false
        ∧ (recognizer.consume.run c).1 = Rule.reject (.literalMismatch "while" (some 'a') 2)
        ∧ (recognizer.consume.run c).2.consumed = 3 := by
  intro c
  have nonempty : "while" ≠ "" := by decide
  have hremaining : c.remaining = ['w', 'h', 'a', 'l', 'e'] :=
    Cursor.remaining_ofText "notes" "whale"
  have hnot : ¬"while".toList <+: c.remaining := by
    rw [hremaining]
    decide
  obtain ⟨hstarts, -, -, -, -, -, hdiffers⟩ := literal_tests_agree ⟨"loop"⟩ "while" nonempty c
  obtain ⟨shared, hshared, -, hanswer, hstep⟩ := hdiffers hnot
  have hwh : shared = ['w', 'h'] := by
    have htake := hshared.unique (sharedStart_take _ _)
    rw [hremaining] at htake
    exact htake.trans (by decide)
  subst hwh
  rw [hremaining] at hanswer hstep
  exact ⟨nonempty, Bool.eq_false_iff.2 (mt hstarts.1 hnot), hanswer, hstep.consumed⟩

end Recognizer

end Lexical
