import Lexical.Proofs.Source.Agreement

/-! How often a source is asked. It is asked once for each character that it gives and, where it is
asked for more than it has, once more for its end. All these questions get through to it up to the
first one that it has no character for; of the others, those to a steady source do.
-/

namespace Lexical.Source

variable {start source rest : Source}

/-- A source is asked for each character and, where there are too few, for the end, by induction
over the characters asked for.
-/
theorem asks_readOnto (count : Nat) (taken : List Char) (source : Source)
    : (source.readOnto count taken).2.asks
      = source.asks + min count (source.remaining.length + 1) := by
  induction count generalizing taken source with
  | zero => simp [readOnto]
  | succ count ih =>
      have hfound := source.read_fst
      have hrest := source.remaining_read
      have hasks := source.asks_read
      rcases hread : source.read with ⟨found, rest⟩
      simp only [hread] at hfound hrest hasks
      cases hremaining : source.remaining with
      | nil =>
          obtain rfl : found = none := by rw [hfound, hremaining, List.head?_nil]
          simp only [readOnto, hread, hasks, List.length_nil]
          omega
      | cons c others =>
          obtain rfl : found = some c := by rw [hfound, hremaining, List.head?_cons]
          simp only [readOnto, hread, ih, hasks, hrest, hremaining, List.tail_cons,
            List.length_cons]
          omega

theorem asks_readMany (count : Nat) (source : Source)
    : (source.readMany count).2.asks
      = source.asks + min count (source.remaining.length + 1) :=
  asks_readOnto count [] source

-----------------------------------------------------------------------------------------
-- What gets through
-----------------------------------------------------------------------------------------

/-- Nobody has asked the source for anything. -/
structure Unasked (source : Source) : Prop where
  asks : source.asks = 0
  reads : source.reads = 0
  ended : source.ended = false

/-- What an unasked source has become by so many questions: the characters that were answered are
gone, it has ended if it was asked for more, and the questions got through to it up to there, or all
of them if it is steady.
-/
structure Since (start source : Source) : Prop where
  steady : source.steady = start.steady
  remaining : source.remaining = start.remaining.drop source.asks
  ended : source.ended = decide (start.remaining.length < source.asks)
  reads
    : source.reads
      = if start.steady then source.asks else min source.asks (start.remaining.length + 1)

theorem Unasked.since (h : start.Unasked) : start.Since start := by
  refine ⟨rfl, ?_, ?_, ?_⟩
  · rw [h.asks, List.drop_zero]
  · rw [h.ended, h.asks]
    rfl
  · rw [h.reads, h.asks, Nat.zero_min, ite_self]

theorem Since.reads_of_steady (h : start.Since source) (steady : start.steady = true)
    : source.reads = source.asks :=
  h.reads.trans (if_pos steady)

theorem Since.reads_of_unsteady (h : start.Since source) (unsteady : start.steady = false)
    : source.reads = min source.asks (start.remaining.length + 1) :=
  h.reads.trans (if_neg (Bool.eq_false_iff.1 unsteady))

/-- Before the end was seen, all questions got through. -/
theorem Since.reads_of_going (h : start.Since source) (going : source.ended = false)
    : source.reads = source.asks := by
  have hinside : ¬start.remaining.length < source.asks := by
    rw [← decide_eq_false_iff_not, ← h.ended, going]
  rw [h.reads, Nat.min_eq_left (by omega), ite_self]

/-- One question more. -/
theorem Since.read (h : start.Since source) : start.Since source.read.2 := by
  have hended := h.ended
  refine ⟨?_, ?_, ?_, ?_⟩
  · rw [steady_read, h.steady]
  · rw [remaining_read, asks_read, h.remaining, List.tail_drop]
  · rw [ended_read, asks_read, h.remaining, List.head?_drop, Bool.eq_iff_iff,
      Option.isNone_iff_eq_none, List.getElem?_eq_none_iff, decide_eq_true_eq, Nat.lt_succ_iff]
  · rw [reads_read, asks_read, h.reads, h.steady]
    cases hsteady : start.steady with
    | true => simp
    | false =>
        cases hending : source.ended with
        | true =>
            have behind : start.remaining.length < source.asks := by simpa [hending] using hended
            simp only [if_true, Bool.false_eq_true, if_false, Bool.toNat_false]
            omega
        | false =>
            have before : source.asks ≤ start.remaining.length := by
              simpa [hending] using hended
            simp only [Bool.false_eq_true, if_false]
            omega

/-- Any number of questions more, by induction over them. -/
theorem Since.readsTo (h : start.Since source) (further : source.ReadsTo rest)
    : start.Since rest := by
  induction further with
  | refl => exact h
  | read _ ih => exact ih h.read

end Lexical.Source
