import Lexical.Pattern.Basic
import Lexical.Proofs.Source.Agreement

/-! Scans and what they have read. On two cursors whose sources agree on all answers that a scan
asks for on the first of them, it does the same and asks as often: what comes later in a source
has no influence on it.
-/

namespace Lexical

-----------------------------------------------------------------------------------------
-- Cursors over sources that agree
-----------------------------------------------------------------------------------------

/-- Cursors with the same characters ahead, at the same place and with the same count, over sources
that agree up to a number of questions.
-/
structure Cursor.AgreesUpTo (bound : Nat) (c d : Cursor) : Prop where
  source : c.source.AgreesUpTo bound d.source
  lookahead : d.lookahead = c.lookahead
  origin : d.origin = c.origin
  consumed : d.consumed = c.consumed

/-- What is done with the cursor uses its source by reading from it only, and is done in the same
way with every cursor that agrees on what is read.
-/
structure CausalAt (run : Cursor → α × Cursor) (c : Cursor) : Prop where
  reads : c.source.ReadsTo (run c).2.source
  agrees
    : ∀ {bound : Nat} {d : Cursor},
        c.AgreesUpTo bound d
        → (run c).2.source.asks ≤ bound
        → (run d).1 = (run c).1 ∧ (run c).2.AgreesUpTo bound (run d).2

/-- What is done with any cursor depends only on what is read. -/
def Causal (run : Cursor → α × Cursor) : Prop :=
  ∀ c, CausalAt run c

/-- What goes on in one way behind a first part, wherever that part gives the same and was done at
the same place, depends only on what both read.
-/
theorem causalAt_of_goesOn {first : Cursor → α × Cursor} {run : Cursor → β × Cursor} {c : Cursor}
    (next : Cursor → β × Cursor) (hfirst : CausalAt first c) (hnext : CausalAt next (first c).2)
    (goesOn
      : ∀ d,
          (first d).1 = (first c).1
          → d.origin = c.origin
          → d.consumed = c.consumed
          → (first d).2.consumed = (first c).2.consumed
          → run d = next (first d).2)
    : CausalAt run c := by
  have hrun := goesOn c rfl rfl rfl rfl
  refine ⟨?_, ?_⟩
  · rw [hrun]
    exact hfirst.reads.trans hnext.reads
  · intro bound d h within
    rw [hrun] at within ⊢
    obtain ⟨hresult, hrest⟩ := hfirst.agrees h (Nat.le_trans hnext.reads.asks_le within)
    rw [goesOn d hresult h.origin h.consumed hrest.consumed]
    exact hnext.agrees hrest within

namespace Cursor

variable {c d : Cursor} {bound : Nat}

theorem readsTo_fill (count : Nat) (c : Cursor) : c.source.ReadsTo (c.fill count).source := by
  unfold fill
  split
  · exact .refl _
  · exact Source.readsTo_readMany _ _

/-- Cursors that agree miss equally many characters, and read the same ones. -/
theorem AgreesUpTo.fill (h : c.AgreesUpTo bound d) (count : Nat)
    (within : (c.fill count).source.asks ≤ bound)
    : (c.fill count).AgreesUpTo bound (d.fill count) := by
  have hmissing : d.missing count = c.missing count := by
    rw [missing, missing, h.lookahead]
  unfold Cursor.fill at within ⊢
  rw [hmissing]
  split
  · exact h
  · next hnonzero =>
      rw [if_neg hnonzero] at within
      obtain ⟨hmore, hsource⟩ := h.source.readMany (c.missing count) within
      exact ⟨hsource, congrArg₂ List.append h.lookahead hmore, h.origin, h.consumed⟩

end Cursor

namespace Scan

-----------------------------------------------------------------------------------------
-- Looking and consuming
-----------------------------------------------------------------------------------------

theorem causal_pure (result : α) : Causal (pure result : Scan α).run := by
  intro c
  exact ⟨.refl _, fun h _ => ⟨rfl, h⟩⟩

/-- What the second of two scans reads comes behind what the first does, so that it finds the same
result wherever the first agrees.
-/
theorem causalAt_bind {first : Scan α} {next : α → Scan β} {c : Cursor}
    (hfirst : CausalAt first.run c)
    (hnext : CausalAt (next (first.run c).1).run (first.run c).2)
    : CausalAt (first >>= next).run c := by
  refine causalAt_of_goesOn _ hfirst hnext ?_
  intro d hresult _ _ _
  rw [run_bind, hresult]

theorem causal_bind {first : Scan α} {next : α → Scan β} (hfirst : Causal first.run)
    (hnext : ∀ result, Causal (next result).run)
    : Causal (first >>= next).run :=
  fun c => causalAt_bind (hfirst c) (hnext _ _)

theorem causal_map {f : α → β} {scan : Scan α} (h : Causal scan.run)
    : Causal (f <$> scan).run :=
  causal_bind h (fun result => causal_pure (f result))

theorem causal_discard {scan : Scan α} (h : Causal scan.run) : Causal (discard scan).run :=
  causal_map h

theorem causal_origin : Causal origin.run := by
  intro c
  exact ⟨.refl _, fun h _ => ⟨h.origin, h⟩⟩

theorem causal_ahead (count : Nat) : Causal (ahead count).run := by
  intro c
  refine ⟨Cursor.readsTo_fill count c, ?_⟩
  intro bound d h within
  have hfilled := h.fill count within
  exact ⟨congrArg (List.take count) hfilled.lookahead, hfilled⟩

theorem causal_peek (offset : Nat) : Causal (peek offset).run := by
  intro c
  refine ⟨Cursor.readsTo_fill (offset + 1) c, ?_⟩
  intro bound d h within
  obtain ⟨htext, hrest⟩ := (causal_ahead (offset + 1) c).agrees h within
  exact ⟨congrArg (·[offset]?) htext, hrest⟩

/-- Consuming moves what was read, and reads no more than looking does. -/
theorem causal_take (count : Nat) : Causal (take count).run := by
  intro c
  refine ⟨Cursor.readsTo_fill count c, ?_⟩
  intro bound d h within
  obtain ⟨htext, hrest⟩ := (causal_ahead count c).agrees h within
  refine ⟨htext, hrest.source, ?_, ?_, ?_⟩
  · exact congrArg (List.drop count) hrest.lookahead
  · exact congrArg₂ Position.advanceOver hrest.origin htext
  · exact congrArg₂ (fun before text => before + List.length text) hrest.consumed htext

theorem causal_next : Causal next.run := by
  intro c
  refine ⟨Cursor.readsTo_fill 1 c, ?_⟩
  intro bound d h within
  obtain ⟨htext, hrest⟩ := (causal_take 1 c).agrees h within
  exact ⟨congrArg List.head? htext, hrest⟩

-----------------------------------------------------------------------------------------
-- Walking
-----------------------------------------------------------------------------------------

/-- A walk looks at the next character and goes on as its move says. -/
theorem walk_eq {σ : Type} {α : Type} (move : σ → Char → Move σ α) (atEnd : σ → α) (state : σ)
    : walk move atEnd state
      = (do
          match ← peek 0 with
          | none => pure (atEnd state)
          | some char =>
            match move state char with
            | .leave result => pure result
            | .take state => do
              discard next
              walk move atEnd state
            | .last result => do
              discard next
              pure result) := by
  ext c : 1
  show c.walk move atEnd state = _
  have hpeek : ((peek 0).run c).1 = (c.fill 1).lookahead.head? := by
    show ((c.fill 1).lookahead.take 1)[0]? = _
    rw [List.getElem?_take_of_lt Nat.one_pos, List.head?_eq_getElem?]
  rw [run_bind, hpeek, Cursor.walk]
  split
  · next hahead =>
      rw [hahead]
      rfl
  · next char rest hahead =>
      simp only [hahead, List.head?_cons]
      cases move state char <;> rfl

/-- Walking depends on what is read at each character, by induction over those that remain. -/
theorem causal_walk {σ : Type} {α : Type} (move : σ → Char → Move σ α) (atEnd : σ → α) (state : σ)
    : Causal (walk move atEnd state).run := by
  intro c
  induction hlength : c.remaining.length using Nat.strongRecOn generalizing state c with
  | ind _ ih =>
      subst hlength
      rw [walk_eq]
      refine causalAt_bind (causal_peek 0 c) ?_
      cases hfound : ((peek 0).run c).1 with
      | none => exact causal_pure _ _
      | some char =>
          cases hmove : move state char with
          | leave result =>
              simp only [hmove]
              exact causal_pure _ _
          | last result =>
              simp only [hmove]
              exact causal_bind (causal_discard causal_next) (fun _ => causal_pure _) _
          | take state =>
              simp only [hmove]
              refine causalAt_bind (causal_discard causal_next _) (ih _ ?_ state _ rfl)
              have hthere : c.remaining[0]? = some char := (c.peek_fst 0).symm.trans hfound
              have hpos := (List.getElem?_eq_some_iff.1 hthere).1
              show (c.peek 0).2.next.2.remaining.length < c.remaining.length
              rw [Cursor.remaining_next, (c.resembles_peek 0).remaining, List.length_tail]
              omega

theorem causal_takeWhile (test : Char → Bool) : Causal (takeWhile test).run :=
  causal_walk _ _ _

theorem causal_seesWhere (test : Char → Bool) : Causal (seesWhere test).run :=
  causal_map (causal_peek 0)

theorem causal_sees (expected : Char) : Causal (sees expected).run :=
  causal_map (causal_peek 0)

theorem causal_spells (word : List Char) : Causal (spells word).run :=
  causal_map (causal_ahead word.length)

-----------------------------------------------------------------------------------------
-- Measuring
-----------------------------------------------------------------------------------------

/-- Measuring looks through one window, and through a wider one if the match fills it and there is
more behind it.
-/
theorem measure_eq (pattern : Pattern) (window : Nat)
    : pattern.measure window
      = (do
          match pattern.lexeme? (← ahead window) with
          | none => pure none
          | some length =>
            if length < window then pure (some length)
            else
              match ← peek window with
              | none => pure (some length)
              | some _ => pattern.measure (2 * window)) := by
  ext c : 1
  show pattern.matchLength window c = _
  rw [run_bind, Pattern.matchLength]
  split
  · next hseen =>
      have hseen : pattern.lexeme? ((ahead window).run c).1 = none := hseen
      rw [hseen]
      rfl
  · next length hseen =>
      have hseen : pattern.lexeme? ((ahead window).run c).1 = some length := hseen
      rw [hseen]
      simp only
      split
      · rfl
      · rw [run_bind]
        split
        · next hbeyond =>
            have hbeyond : ((peek window).run ((ahead window).run c).2).1 = none := hbeyond
            rw [hbeyond]
            rfl
        · next char hbeyond =>
            have hbeyond : ((peek window).run ((ahead window).run c).2).1 = some char := hbeyond
            rw [hbeyond]
            rfl

/-- Measuring depends on what is read for its windows, by induction over what lies behind them. -/
theorem causal_measure (pattern : Pattern) (window : Nat)
    : Causal (pattern.measure window).run := by
  intro c
  induction hlength : c.remaining.length - window using Nat.strongRecOn generalizing window c with
  | ind _ ih =>
      subst hlength
      rw [measure_eq]
      refine causalAt_bind (causal_ahead window c) ?_
      cases hseen : pattern.lexeme? ((ahead window).run c).1 with
      | none => exact causal_pure _ _
      | some length =>
          simp only
          split
          · exact causal_pure _ _
          · refine causalAt_bind (causal_peek window _) ?_
            cases hbeyond : ((peek window).run ((ahead window).run c).2).1 with
            | none => exact causal_pure _ _
            | some char =>
                exact ih _ (Pattern.beyond_wider_lt hseen hbeyond) (2 * window) _ rfl

end Scan

end Lexical
