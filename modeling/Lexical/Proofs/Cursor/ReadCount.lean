import Lexical.Proofs.Scan.Causal
import Lexical.Proofs.Source.Feed
import Lexical.Proofs.View

/-! How far a cursor reads. A cursor asks its source for no more than its looks need: whatever was
asked of it, the source was asked for each character up to the furthest that was looked at so far,
and once for each look that went over its end.
-/

namespace Lexical

-----------------------------------------------------------------------------------------
-- Looks and demands
-----------------------------------------------------------------------------------------

/-- A look at one character: how many characters were consumed before it, and how many places the
character is behind the next one.
-/
structure Look where
  consumed : Nat
  offset : Nat
deriving DecidableEq, Repr

namespace Look

/-- How many characters the look goes over, counted from the start of the input. -/
def reach (look : Look) : Nat := look.consumed + look.offset + 1

/-- How many characters the furthest of some looks goes over. -/
def furthest (looks : List Look) : Nat := (looks.map reach).foldr max 0

/-- How many of the looks go over more than so many characters. -/
def beyond (length : Nat) (looks : List Look) : Nat := looks.countP (length < ·.reach)

/-- The looks at the next character before each of so many steps, and behind the last of them. -/
def stepwise (consumed steps : Nat) : List Look :=
  (List.range (steps + 1)).map fun taken => ⟨consumed + taken, 0⟩

theorem furthest_cons (look : Look) (looks : List Look)
    : furthest (look :: looks) = max look.reach (furthest looks) :=
  rfl

theorem furthest_append (first second : List Look)
    : furthest (first ++ second) = max (furthest first) (furthest second) := by
  induction first with
  | nil => exact (Nat.zero_max _).symm
  | cons look others ih => rw [List.cons_append, furthest_cons, furthest_cons, ih, Nat.max_assoc]

theorem beyond_cons (length : Nat) (look : Look) (looks : List Look)
    : beyond length (look :: looks)
      = beyond length looks + if length < look.reach then 1 else 0 := by
  simp only [beyond, List.countP_cons, decide_eq_true_eq]

theorem beyond_append (length : Nat) (first second : List Look)
    : beyond length (first ++ second) = beyond length first + beyond length second :=
  List.countP_append

/-- Looks step by step are a look here, and those from the next place on. -/
theorem stepwise_succ (consumed steps : Nat)
    : stepwise consumed (steps + 1) = ⟨consumed, 0⟩ :: stepwise (consumed + 1) steps := by
  simp only [stepwise, List.range_succ_eq_map (n := steps + 1), List.map_cons, List.map_map,
    Nat.add_zero, List.cons.injEq, true_and]
  refine List.map_congr_left fun taken _ => ?_
  simp [Nat.add_comm 1, Nat.add_assoc]

end Look

/-- What a host asks of a cursor itself, without a recognizer. -/
inductive Demand where
  | peek (offset : Nat)
  | next
  | sees (expected : Char)
  | spells (word : List Char)
  | atEnd
  | takeWhile (test : Char → Bool)
  | takeUntil (test : Char → Bool)
  | takeRest
  | origin
  | sourceName
  | consumed

namespace Demand

/-- What the demand does with a cursor, whatever it gives. -/
def scan : Demand → Scan Unit
  | peek offset => discard (Scan.peek offset)
  | next => discard Scan.next
  | sees expected => discard (Scan.sees expected)
  | spells word => discard (Scan.spells word)
  | atEnd => discard Scan.atEnd
  | takeWhile test => discard (Scan.takeWhile test)
  | takeUntil test => discard (Scan.takeUntil test)
  | takeRest => discard Scan.takeRest
  | origin => discard Scan.origin
  | sourceName => discard (Position.source <$> Scan.origin)
  | consumed => discard Scan.consumed

/-- The looks that the demand needs where so much remains. A word is looked at from its last
character on, whatever its first one meets; taking needs a look for each character that it takes and
one where it stops; and what the cursor knows of itself needs none.
-/
def looks (v : View) : Demand → List Look
  | peek offset => [⟨v.consumed, offset⟩]
  | next | sees _ | atEnd => [⟨v.consumed, 0⟩]
  | spells word => if word.isEmpty then [] else [⟨v.consumed, word.length - 1⟩]
  | takeWhile test => Look.stepwise v.consumed (v.remaining.takeWhile test).length
  | takeUntil test => Look.stepwise v.consumed (v.remaining.takeWhile (!test ·)).length
  | takeRest => Look.stepwise v.consumed v.remaining.length
  | origin | sourceName | consumed => []

/-- The cursor after demands one by one. -/
def after (c : Cursor) (demands : List Demand) : Cursor :=
  demands.foldl (fun c demand => (demand.scan.run c).2) c

/-- The looks that demands need one after the other. -/
def looksOf (c : Cursor) : List Demand → List Look
  | [] => []
  | demand :: others => demand.looks c.view ++ looksOf (demand.scan.run c).2 others

end Demand

-----------------------------------------------------------------------------------------
-- How far a source was asked
-----------------------------------------------------------------------------------------

namespace Cursor

/-- The cursor was asked for these looks over an input of so many characters: it has got those that
the furthest look goes over, and has asked for each of them, and once more for each look that goes
over the end.
-/
structure AskedFor (length : Nat) (looks : List Look) (c : Cursor) : Prop where
  input : c.consumed + c.remaining.length = length
  got : c.consumed + c.lookahead.length = min length (Look.furthest looks)
  asks : c.source.asks = min length (Look.furthest looks) + Look.beyond length looks

variable {c : Cursor} {length : Nat} {looks : List Look}

theorem missing_eq (count : Nat) (c : Cursor) : c.missing count = count - c.lookahead.length := by
  rw [missing, List.length_take]
  omega

/-- Where enough characters are ahead, reading on does nothing. -/
theorem fill_eq_self {count : Nat} (enough : count ≤ c.lookahead.length) : c.fill count = c := by
  rw [Cursor.fill, missing_eq, if_pos (Nat.sub_eq_zero_of_le enough)]

/-- The source is asked for the characters that are missing, and once for more if it has too few. -/
theorem asks_fill (count : Nat) (c : Cursor)
    : (c.fill count).source.asks
      = c.source.asks + min (count - c.lookahead.length) (c.source.remaining.length + 1) := by
  by_cases enough : count ≤ c.lookahead.length
  · rw [fill_eq_self enough, Nat.sub_eq_zero_of_le enough, Nat.zero_min, Nat.add_zero]
  · rw [Cursor.fill, missing_eq, if_neg (by omega)]
    exact Source.asks_readMany _ _

theorem length_lookahead_fill (count : Nat) (c : Cursor)
    : (c.fill count).lookahead.length
      = c.lookahead.length + min (count - c.lookahead.length) c.source.remaining.length := by
  by_cases enough : count ≤ c.lookahead.length
  · rw [fill_eq_self enough, Nat.sub_eq_zero_of_le enough, Nat.zero_min, Nat.add_zero]
  · rw [Cursor.fill, missing_eq, if_neg (by omega)]
    simp only [Source.readMany_fst, List.length_append, List.length_take]

/-- Where so many characters remain, they are ahead after reading on. -/
theorem le_length_lookahead_fill {count : Nat} (enough : count ≤ c.remaining.length)
    : count ≤ (c.fill count).lookahead.length := by
  rw [remaining, List.length_append] at enough
  rw [length_lookahead_fill]
  omega

/-- Reading on up to a character is one look more. -/
theorem AskedFor.fill (h : c.AskedFor length looks) (offset : Nat)
    : (c.fill (offset + 1)).AskedFor length (looks ++ [⟨c.consumed, offset⟩]) := by
  obtain ⟨hinput, hgot, hasks⟩ := h
  have hremaining : c.remaining.length = c.lookahead.length + c.source.remaining.length :=
    List.length_append
  have hfilled := c.resembles_fill (offset + 1)
  have hfurthest : Look.furthest (looks ++ [⟨c.consumed, offset⟩])
      = max (Look.furthest looks) (c.consumed + offset + 1) := by
    rw [Look.furthest_append, Look.furthest_cons]
    exact congrArg (max _) (Nat.max_zero _)
  have hbeyond : Look.beyond length (looks ++ [⟨c.consumed, offset⟩])
      = Look.beyond length looks + if length < c.consumed + offset + 1 then 1 else 0 := by
    rw [Look.beyond_append, Look.beyond_cons]
    exact congrArg (_ + ·) (Nat.zero_add _)
  refine ⟨?_, ?_, ?_⟩
  · rw [hfilled.remaining, hfilled.consumed, hinput]
  · rw [hfilled.consumed, length_lookahead_fill, hfurthest]
    omega
  · rw [asks_fill, hfurthest, hbeyond]
    split <;> omega

/-- Consuming what was read on for is no further look. -/
theorem AskedFor.take {count : Nat} (h : (c.fill count).AskedFor length looks)
    : (c.take count).2.AskedFor length looks := by
  refine ⟨?_, ?_, h.asks⟩
  · have hstep := c.stepsOver_take count
    have hfilled := c.resembles_fill count
    have hinput := h.input
    rw [hfilled.consumed, hfilled.remaining] at hinput
    rw [hstep.consumed, c.remaining_take, List.length_drop, List.length_take, ← hinput]
    omega
  · show (c.fill count).consumed + ((c.fill count).lookahead.take count).length
        + ((c.fill count).lookahead.drop count).length = _
    rw [← h.got, List.length_take, List.length_drop]
    omega

/-- Taking a character that was looked at steps over it. -/
theorem stepsOver_peek_next {char : Char} {rest : List Char} (there : c.remaining = char :: rest)
    : c.StepsOver [char] (c.peek 0).2.next.2 := by
  have hpeek := c.resembles_peek 0
  have hstep := (c.peek 0).2.stepsOver_take 1
  rw [hpeek.remaining, there] at hstep
  exact hpeek.stepsOver.trans hstep

/-- Taking characters while a test holds looks at each of them and at the one that it stops at, by
induction over the characters that remain.
-/
theorem AskedFor.takeWhile (h : c.AskedFor length looks) (test : Char → Bool)
    : ((Scan.takeWhile test).run c).2.AskedFor length
        (looks ++ Look.stepwise c.consumed (c.remaining.takeWhile test).length) := by
  unfold Scan.takeWhile
  generalize ([] : List Char) = taken
  induction hlength : c.remaining.length using Nat.strongRecOn generalizing taken looks c with
  | ind _ ih =>
      subst hlength
      have hseen : (c.peek 0).2.AskedFor length (looks ++ [⟨c.consumed, 0⟩]) := h.fill 0
      rw [Scan.walk_eq, Scan.run_bind]
      have hfound : ((Scan.peek 0).run c).1 = c.remaining.head? :=
        (c.peek_fst 0).trans (List.head?_eq_getElem?).symm
      rw [hfound]
      cases hremaining : c.remaining with
      | nil => exact hseen
      | cons char rest =>
          simp only [List.head?_cons]
          cases htest : test char with
          | false =>
              simp only [Bool.false_eq_true, if_false]
              rw [List.takeWhile_cons_of_neg (by simp [htest])]
              exact hseen
          | true =>
              have hstep := stepsOver_peek_next hremaining
              have hrest : (c.peek 0).2.next.2.remaining = rest :=
                List.append_cancel_left (hstep.remaining.symm.trans hremaining)
              have hless : (c.peek 0).2.next.2.remaining.length < c.remaining.length := by
                rw [hrest, hremaining, List.length_cons]
                exact Nat.lt_succ_self _
              -- The character is ahead already, so that taking it asks for nothing.
              have hahead : (c.peek 0).2.fill 1 = (c.peek 0).2 := by
                refine fill_eq_self (le_length_lookahead_fill ?_)
                rw [hremaining, List.length_cons]
                exact Nat.succ_pos _
              have hnext : (c.peek 0).2.next.2.AskedFor length (looks ++ [⟨c.consumed, 0⟩]) :=
                AskedFor.take (hahead.symm ▸ hseen)
              have hmore := ih _ hless hnext (char :: taken) rfl
              rw [hrest, hstep.consumed, List.append_assoc] at hmore
              rw [List.takeWhile_cons_of_pos htest, List.length_cons, Look.stepwise_succ]
              exact hmore

-----------------------------------------------------------------------------------------
-- Demands and histories
-----------------------------------------------------------------------------------------

/-- A demand needs its own looks behind those before it. -/
theorem AskedFor.demand (h : c.AskedFor length looks) (demand : Demand)
    : (demand.scan.run c).2.AskedFor length (looks ++ demand.looks c.view) := by
  have unchanged : c.AskedFor length (looks ++ []) := (List.append_nil looks).symm ▸ h
  cases demand with
  | peek offset => exact h.fill offset
  | next => exact (h.fill 0).take
  | sees expected => exact h.fill 0
  | atEnd => exact h.fill 0
  | spells word =>
      cases word with
      | nil =>
          have hnone : c.fill 0 = c := fill_eq_self (Nat.zero_le _)
          show (c.fill 0).AskedFor length (looks ++ [])
          rw [hnone]
          exact unchanged
      | cons first rest => exact h.fill rest.length
  | takeWhile test => exact h.takeWhile test
  | takeUntil test => exact h.takeWhile _
  | takeRest =>
      have hall : c.remaining.takeWhile (fun _ => true) = c.remaining :=
        List.takeWhile_eq_self_iff.2 (fun _ _ => rfl)
      have hrest := h.takeWhile (fun _ => true)
      rw [hall] at hrest
      exact hrest
  | origin => exact unchanged
  | sourceName => exact unchanged
  | consumed => exact unchanged

/-- A history needs the looks of its demands, by induction over them. -/
theorem AskedFor.after (h : c.AskedFor length looks) (demands : List Demand)
    : (Demand.after c demands).AskedFor length (looks ++ Demand.looksOf c demands) := by
  induction demands generalizing c looks with
  | nil => exact (List.append_nil looks).symm ▸ h
  | cons demand others ih =>
      rw [Demand.looksOf, ← List.append_assoc]
      exact ih (h.demand demand)

end Cursor

namespace Demand

end Demand

end Lexical
