import Lexical.Cursor

/-! Scans: what can be done with a cursor by looking at characters and consuming them. A scan never
moves a cursor back, so a scan that consumes something leaves fewer characters; and what was read
ahead is hidden from it, so that it does the same on cursors that show the same.
-/

namespace Lexical

/-- A computation over a cursor that leaves it at the same place or further on, and that learns of
it only what it shows.
-/
structure Scan (α : Type u) where
  run : Cursor → α × Cursor
  reaches : ∀ c : Cursor, c.Reaches (run c).2
  respects
    : ∀ {c d : Cursor}, c.Resembles d → (run d).1 = (run c).1 ∧ (run c).2.Resembles (run d).2

/-- What a walk does at a character: stay before it with a result, consume it and go on in a new
state, or consume it as the last one.
-/
inductive Move (σ : Type u) (α : Type v) where
  | leave (result : α)
  | take (state : σ)
  | last (result : α)

/-- The same move, where results are given in another form. -/
def Move.map (f : α → β) : Move σ α → Move σ β
  | leave result => leave (f result)
  | take state => take state
  | last result => last (f result)

@[simp] theorem Move.map_leave (f : α → β) (result : α)
    : (leave result : Move σ α).map f = leave (f result) :=
  rfl

@[simp] theorem Move.map_take (f : α → β) (state : σ)
    : (take state : Move σ α).map f = take state :=
  rfl

@[simp] theorem Move.map_last (f : α → β) (result : α)
    : (last result : Move σ α).map f = last (f result) :=
  rfl

namespace Cursor

/-- Goes through the characters that remain, as the moves say. -/
def walk {σ : Type u} {α : Type v} (move : σ → Char → Move σ α) (atEnd : σ → α) (state : σ)
    (c : Cursor)
    : α × Cursor :=
  let filled := c.fill 1
  match _h : filled.lookahead with
  | [] => (atEnd state, filled)
  | char :: _ =>
    match move state char with
    | .leave result => (result, filled)
    | .take state => walk move atEnd state (filled.take 1).2
    | .last result => (result, (filled.take 1).2)
termination_by c.remaining.length
decreasing_by
  rw [remaining_take, List.length_drop, ← (c.resembles_fill 1).remaining, remaining]
  simp_all +zetaDelta

/-- What a walk makes of a list of characters: its result, and how many of them it consumes. -/
def walkText {σ : Type u} {α : Type v} (move : σ → Char → Move σ α) (atEnd : σ → α)
    : σ → List Char → α × Nat
  | state, [] => (atEnd state, 0)
  | state, char :: rest =>
    match move state char with
    | .leave result => (result, 0)
    | .take state =>
      let (result, count) := walkText move atEnd state rest
      (result, count + 1)
    | .last result => (result, 1)

/-- A walk depends on the characters that remain, and consumes the first of them. -/
theorem walk_spec {σ : Type u} {α : Type v} (move : σ → Char → Move σ α) (atEnd : σ → α)
    (state : σ) (c : Cursor)
    : (c.walk move atEnd state).1 = (walkText move atEnd state c.remaining).1
      ∧ c.StepsOver (c.remaining.take (walkText move atEnd state c.remaining).2)
          (c.walk move atEnd state).2 := by
  have hhead := c.head?_lookahead_fill
  have hfill := c.resembles_fill 1
  fun_induction walk with
  | case1 state c filled hnil =>
    have hremaining : c.remaining = [] := by simpa +zetaDelta [hnil] using hhead.symm
    simpa [hremaining, walkText] using hfill.stepsOver
  | case2 state c filled char rest hcons result hmove =>
    obtain ⟨others, hremaining⟩ : ∃ others, c.remaining = char :: others := by
      simpa +zetaDelta [hcons, List.head?_eq_some_iff] using hhead.symm
    simpa [hremaining, walkText, hmove] using hfill.stepsOver
  | case3 state c filled char rest hcons next hmove ih =>
    obtain ⟨others, hremaining⟩ : ∃ others, c.remaining = char :: others := by
      simpa +zetaDelta [hcons, List.head?_eq_some_iff] using hhead.symm
    have hstep := hfill.stepsOver.trans ((c.fill 1).stepsOver_take 1)
    have hnext : ((c.fill 1).take 1).2.remaining = others := by
      rw [remaining_take, hfill.remaining, hremaining]
      rfl
    obtain ⟨hresult, hrest⟩ := ih (head?_lookahead_fill _) (resembles_fill ..)
    rw [hnext] at hresult hrest
    rw [hfill.remaining, hremaining] at hstep
    refine ⟨?_, ?_⟩
    · simpa [hremaining, walkText, hmove] using hresult
    · simpa [hremaining, walkText, hmove] using hstep.trans hrest
  | case4 state c filled char rest hcons result hmove =>
    obtain ⟨others, hremaining⟩ : ∃ others, c.remaining = char :: others := by
      simpa +zetaDelta [hcons, List.head?_eq_some_iff] using hhead.symm
    have hstep := hfill.stepsOver.trans ((c.fill 1).stepsOver_take 1)
    rw [hfill.remaining, hremaining] at hstep
    simpa [hremaining, walkText, hmove] using hstep

theorem reaches_walk {σ : Type u} {α : Type v} (move : σ → Char → Move σ α) (atEnd : σ → α)
    (state : σ) (c : Cursor)
    : c.Reaches (c.walk move atEnd state).2 :=
  ⟨_, (c.walk_spec move atEnd state).2⟩

end Cursor

namespace Scan

/-- Gives a result and leaves the cursor alone. -/
protected def pure (result : α) : Scan α where
  run c := (result, c)
  reaches c := .refl c
  respects h := ⟨rfl, h⟩

/-- Goes on with the result of a scan where that scan has left the cursor. -/
protected def bind (first : Scan α) (next : α → Scan β) : Scan β where
  run c := (next (first.run c).1).run (first.run c).2
  reaches c := (first.reaches c).trans ((next (first.run c).1).reaches (first.run c).2)
  respects h := by
    obtain ⟨same, after⟩ := first.respects h
    rw [same]
    exact (next _).respects after

instance : Monad Scan where
  pure := Scan.pure
  bind := Scan.bind

@[simp] theorem run_pure (result : α) (c : Cursor) : (pure result : Scan α).run c = (result, c) :=
  rfl

@[simp] theorem run_bind (first : Scan α) (next : α → Scan β) (c : Cursor)
    : (first >>= next).run c = (next (first.run c).1).run (first.run c).2 :=
  rfl

@[ext] theorem ext {first second : Scan α} (h : ∀ c, first.run c = second.run c)
    : first = second := by
  cases first
  cases second
  congr
  exact funext h

instance : LawfulMonad Scan :=
  LawfulMonad.mk' Scan (fun _ => rfl) (fun _ _ => rfl) (fun _ _ _ => rfl)

/-- The place of the next character. -/
def origin : Scan Position where
  run c := (c.origin, c)
  reaches c := .refl c
  respects h := ⟨h.origin, h⟩

/-- How many characters were consumed. -/
def consumed : Scan Nat where
  run c := (c.consumed, c)
  reaches c := .refl c
  respects h := ⟨h.consumed, h⟩

/-- The next characters, as many as asked for or as remain, without consuming them. -/
def ahead (count : Nat) : Scan (List Char) where
  run c := c.ahead count
  reaches c := (c.resembles_ahead count).reaches
  respects {c d} h :=
    ⟨by simp [h.remaining],
      ((c.resembles_ahead count).symm.trans h).trans (d.resembles_ahead count)⟩

/-- The character that many places after the next one, without consuming it. -/
def peek (offset : Nat) : Scan (Option Char) where
  run c := c.peek offset
  reaches c := (c.resembles_peek offset).reaches
  respects {c d} h :=
    ⟨by simp [h.remaining],
      ((c.resembles_peek offset).symm.trans h).trans (d.resembles_peek offset)⟩

/-- Consumes the next character, if there is one. -/
def next : Scan (Option Char) where
  run c := c.next
  reaches c := c.reaches_next
  respects {c d} h :=
    ⟨by simp [h.remaining], (c.stepsOver_take 1).resembles h (h.remaining ▸ d.stepsOver_take 1)⟩

/-- Consumes the next characters, as many as asked for or as remain. -/
def take (count : Nat) : Scan (List Char) where
  run c := c.take count
  reaches c := c.reaches_take count
  respects {c d} h :=
    ⟨by simp [h.remaining],
      (c.stepsOver_take count).resembles h (h.remaining ▸ d.stepsOver_take count)⟩

/-- Goes through the characters that remain, as the moves say. -/
def walk {σ : Type u} {α : Type v} (move : σ → Char → Move σ α) (atEnd : σ → α) (state : σ)
    : Scan α where
  run c := c.walk move atEnd state
  reaches c := c.reaches_walk move atEnd state
  respects {c d} h := by
    obtain ⟨hc, hcrest⟩ := c.walk_spec move atEnd state
    obtain ⟨hd, hdrest⟩ := d.walk_spec move atEnd state
    rw [h.remaining] at hd hdrest
    exact ⟨hd.trans hc.symm, hcrest.resembles h hdrest⟩

/-- Whether no character remains. -/
def atEnd : Scan Bool := Option.isNone <$> peek 0

/-- Whether the next character is the given one. -/
def sees (expected : Char) : Scan Bool := (· == some expected) <$> peek 0

/-- Whether the next character is there and satisfies the test. -/
def seesWhere (test : Char → Bool) : Scan Bool := Option.any test <$> peek 0

/-- Whether the next characters spell the word. -/
def spells (word : List Char) : Scan Bool := (· == word) <$> ahead word.length

/-- Consumes characters up to the first that fails the test. -/
def takeWhile (test : Char → Bool) : Scan (List Char) :=
  walk (fun taken c => if test c then .take (c :: taken) else .leave taken.reverse) List.reverse []

/-- Consumes characters up to the first that satisfies the test. -/
def takeUntil (test : Char → Bool) : Scan (List Char) := takeWhile fun c => !test c

/-- Consumes all that remains. -/
def takeRest : Scan (List Char) := takeWhile fun _ => true

end Scan

end Lexical
