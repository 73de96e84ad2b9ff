import Lexical.Source
import Mathlib.Data.List.Basic

/-! Sources that give the same answers for a while. Reading from two of them goes alike until one
of them has been asked more often than they agree, also over the end of both.
-/

namespace Lexical.Source

-----------------------------------------------------------------------------------------
-- Reading on
-----------------------------------------------------------------------------------------

/-- The second source is what reading from the first some number of times leaves. -/
inductive ReadsTo : Source → Source → Prop
  | refl (source) : ReadsTo source source
  | read {source rest} (further : ReadsTo source.read.2 rest) : ReadsTo source rest

variable {s t u : Source} {bound : Nat}

theorem ReadsTo.trans (first : s.ReadsTo t) (second : t.ReadsTo u) : s.ReadsTo u := by
  induction first with
  | refl => exact second
  | read _ ih => exact .read (ih second)

theorem ReadsTo.asks_le (h : s.ReadsTo t) : s.asks ≤ t.asks := by
  induction h with
  | refl => exact Nat.le_refl _
  | @read source _ _ ih =>
      rw [asks_read] at ih
      exact Nat.le_of_succ_le ih

theorem ReadsTo.steady (h : s.ReadsTo t) : t.steady = s.steady := by
  induction h with
  | refl => rfl
  | @read source _ _ ih => rw [ih, steady_read]

/-- Reading some characters only reads. -/
theorem readsTo_readOnto (count : Nat) (taken : List Char) (source : Source)
    : source.ReadsTo (source.readOnto count taken).2 := by
  induction count generalizing taken source with
  | zero => exact .refl source
  | succ count ih =>
      rw [readOnto]
      split
      · next rest hread => exact .read (by rw [hread]; exact .refl rest)
      · next c rest hread => exact .read (by rw [hread]; exact ih (c :: taken) rest)

theorem readsTo_readMany (count : Nat) (source : Source)
    : source.ReadsTo (source.readMany count).2 :=
  readsTo_readOnto count [] source

-----------------------------------------------------------------------------------------
-- Agreement up to a number of questions
-----------------------------------------------------------------------------------------

/-- Two sources that were asked equally often, that have both ended or both not, and that give the
same answers to all questions before the bound. As many questions got through to both if both are
steady or both are not.
-/
structure AgreesUpTo (bound : Nat) (s t : Source) : Prop where
  asks : t.asks = s.asks
  ended : t.ended = s.ended
  answers : ∀ index, s.asks + index < bound → t.remaining[index]? = s.remaining[index]?
  reads : t.steady = s.steady → t.reads = s.reads

/-- A question within the bound has the same answer, and behind it the sources agree on. -/
theorem AgreesUpTo.read (h : s.AgreesUpTo bound t) (within : s.read.2.asks ≤ bound)
    : t.read.1 = s.read.1 ∧ s.read.2.AgreesUpTo bound t.read.2 := by
  rw [asks_read] at within
  have hanswer : t.remaining.head? = s.remaining.head? := by
    simpa [List.head?_eq_getElem?] using h.answers 0 within
  refine ⟨?_, ?_, ?_, ?_, ?_⟩
  · rw [read_fst, read_fst, hanswer]
  · rw [asks_read, asks_read, h.asks]
  · rw [ended_read, ended_read, hanswer]
  · intro index hindex
    rw [asks_read] at hindex
    simpa [remaining_read, List.getElem?_tail] using h.answers (index + 1) (by omega)
  · intro alike
    rw [steady_read, steady_read] at alike
    rw [reads_read, reads_read, h.reads alike, h.ended, alike]

/-- Reading some characters within the bound gives the same ones, by induction over their number. -/
theorem AgreesUpTo.readOnto (h : s.AgreesUpTo bound t) (count : Nat) (taken : List Char)
    (within : (s.readOnto count taken).2.asks ≤ bound)
    : (t.readOnto count taken).1 = (s.readOnto count taken).1
      ∧ (s.readOnto count taken).2.AgreesUpTo bound (t.readOnto count taken).2 := by
  induction count generalizing taken s t with
  | zero => exact ⟨rfl, h⟩
  | succ count ih =>
      rcases hs : s.read with ⟨found, rest⟩
      rcases ht : t.read with ⟨found', rest'⟩
      have hread := h.read
      rw [hs, ht] at hread
      cases found with
      | none =>
          simp only [Source.readOnto, hs] at within
          obtain ⟨rfl, hrest⟩ := hread within
          simp only [Source.readOnto, hs, ht]
          exact ⟨trivial, hrest⟩
      | some c =>
          simp only [Source.readOnto, hs] at within
          have hmore := (readsTo_readOnto count (c :: taken) rest).asks_le
          obtain ⟨rfl, hrest⟩ := hread (Nat.le_trans hmore within)
          simp only [Source.readOnto, hs, ht]
          exact ih hrest (c :: taken) within

theorem AgreesUpTo.readMany (h : s.AgreesUpTo bound t) (count : Nat)
    (within : (s.readMany count).2.asks ≤ bound)
    : (t.readMany count).1 = (s.readMany count).1
      ∧ (s.readMany count).2.AgreesUpTo bound (t.readMany count).2 := by
  obtain ⟨htaken, hrest⟩ := h.readOnto count [] within
  exact ⟨congrArg List.reverse htaken, hrest⟩

end Lexical.Source
