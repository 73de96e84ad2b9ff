import Lexical.Position
import Lexical.Source

/-! Cursors over a source: characters are read when a look ahead or a step needs them, and kept
until they are consumed. What a cursor shows is the list of characters that remain; the operations
are described by what they do to it.
-/

namespace Lexical

/-- A place in a source, with the characters that were read from the source but not consumed. -/
structure Cursor where
  source : Source
  lookahead : List Char := []
  origin : Position
  consumed : Nat := 0
deriving DecidableEq, Repr

namespace Cursor

/-- A cursor before the first character of a source. -/
def ofSource (name : String) (source : Source) : Cursor :=
  { source, origin := Position.start name }

/-- A cursor before the first character of a text. -/
def ofText (name text : String) : Cursor :=
  ofSource name (Source.ofText text)

/-- The characters that were not consumed, in order. -/
def remaining (c : Cursor) : List Char :=
  c.lookahead ++ c.source.remaining

/-- How many characters have to be read before so many are ahead. -/
def missing (count : Nat) (c : Cursor) : Nat :=
  count - (c.lookahead.take count).length

/-- Reads on until so many characters are ahead or the source ends. -/
def fill (count : Nat) (c : Cursor) : Cursor :=
  if c.missing count = 0 then c
  else
    let (more, source) := c.source.readMany (c.missing count)
    { c with source, lookahead := c.lookahead ++ more }

/-- Looks at the next characters, as many as asked for or as remain, without consuming them. -/
def ahead (count : Nat) (c : Cursor) : List Char × Cursor :=
  let filled := c.fill count
  (filled.lookahead.take count, filled)

/-- Looks at the character that many places after the next one. -/
def peek (offset : Nat) (c : Cursor) : Option Char × Cursor :=
  let (text, filled) := c.ahead (offset + 1)
  (text[offset]?, filled)

/-- Consumes the next characters, as many as asked for or as remain. -/
def take (count : Nat) (c : Cursor) : List Char × Cursor :=
  let (text, filled) := c.ahead count
  (text,
    { filled with
      lookahead := filled.lookahead.drop count
      origin := filled.origin.advanceOver text
      consumed := filled.consumed + text.length })

/-- Consumes the next character. At the end there is none, and the cursor stays where it is. -/
def next (c : Cursor) : Option Char × Cursor :=
  let (text, rest) := c.take 1
  (text.head?, rest)

/-- A cursor that shows the same: only the characters read ahead may differ. -/
structure Resembles (c d : Cursor) : Prop where
  remaining : d.remaining = c.remaining
  origin : d.origin = c.origin
  consumed : d.consumed = c.consumed

/-- A cursor that some characters were consumed to get to. -/
structure StepsOver (c : Cursor) (taken : List Char) (d : Cursor) : Prop where
  remaining : c.remaining = taken ++ d.remaining
  origin : d.origin = c.origin.advanceOver taken
  consumed : d.consumed = c.consumed + taken.length

/-- A cursor at the same place or further on. -/
def Reaches (c d : Cursor) : Prop := ∃ taken, c.StepsOver taken d

theorem Resembles.refl (c : Cursor) : c.Resembles c := ⟨rfl, rfl, rfl⟩

theorem Resembles.trans {c d e : Cursor} (first : c.Resembles d) (second : d.Resembles e)
    : c.Resembles e :=
  ⟨second.remaining.trans first.remaining, second.origin.trans first.origin,
    second.consumed.trans first.consumed⟩

theorem Resembles.symm {c d : Cursor} (h : c.Resembles d) : d.Resembles c :=
  ⟨h.remaining.symm, h.origin.symm, h.consumed.symm⟩

/-- Looking is a step over nothing. -/
theorem Resembles.stepsOver {c d : Cursor} (h : c.Resembles d) : c.StepsOver [] d :=
  ⟨h.remaining.symm, h.origin, h.consumed⟩

theorem Resembles.reaches {c d : Cursor} (h : c.Resembles d) : c.Reaches d := ⟨[], h.stepsOver⟩

/-- Steps compose, and so do the characters stepped over. -/
theorem StepsOver.trans {c d e : Cursor} {first second : List Char}
    (h : c.StepsOver first d) (k : d.StepsOver second e)
    : c.StepsOver (first ++ second) e where
  remaining := by rw [h.remaining, k.remaining, List.append_assoc]
  origin := by rw [k.origin, h.origin, Position.advanceOver_append]
  consumed := by rw [k.consumed, h.consumed, List.length_append, Nat.add_assoc]

/-- Where two cursors show the same, stepping over the same characters leads to the same. -/
theorem StepsOver.resembles {c c' d d' : Cursor} {taken : List Char} (h : c.Resembles d)
    (hc : c.StepsOver taken c') (hd : d.StepsOver taken d')
    : c'.Resembles d' where
  remaining := by
    have same := h.remaining
    rw [hc.remaining, hd.remaining] at same
    exact List.append_cancel_left same
  origin := by rw [hd.origin, hc.origin, h.origin]
  consumed := by rw [hd.consumed, hc.consumed, h.consumed]

theorem Reaches.refl (c : Cursor) : c.Reaches c := (Resembles.refl c).reaches

theorem Reaches.trans {c d e : Cursor} : c.Reaches d → d.Reaches e → c.Reaches e
  | ⟨_, h⟩, ⟨_, k⟩ => ⟨_, h.trans k⟩

/-- Where the count of consumed characters has changed, fewer remain. -/
theorem Reaches.remaining_length_lt {c d : Cursor} (h : c.Reaches d)
    (moved : d.consumed ≠ c.consumed)
    : d.remaining.length < c.remaining.length := by
  obtain ⟨taken, h⟩ := h
  have := h.consumed
  rw [h.remaining, List.length_append]
  omega

@[simp] theorem remaining_ofText (name text : String)
    : (ofText name text).remaining = text.toList := by
  simp [remaining, ofText, ofSource]

/-- Reading ahead changes nothing that shows. -/
theorem resembles_fill (count : Nat) (c : Cursor) : c.Resembles (c.fill count) := by
  unfold fill
  split
  · exact .refl c
  · refine ⟨?_, rfl, rfl⟩
    simp only [remaining, List.append_assoc, Source.readMany_fst, Source.remaining_readMany,
      List.take_append_drop]

/-- After reading ahead, the characters asked for are in the lookahead. -/
theorem take_lookahead_fill (count : Nat) (c : Cursor)
    : (c.fill count).lookahead.take count = c.remaining.take count := by
  unfold fill remaining
  split
  · rename_i h
    rw [missing, List.length_take] at h
    rw [List.take_append_of_le_length (by omega)]
  · rename_i h
    have : c.missing count = count - c.lookahead.length := by
      rw [missing, List.length_take] at h ⊢
      omega
    simp only [Source.readMany_fst, List.take_append, this, List.take_take, Nat.min_self]

/-- After reading ahead by one, the next character is the first in the lookahead. -/
theorem head?_lookahead_fill (c : Cursor) : (c.fill 1).lookahead.head? = c.remaining.head? := by
  have h := c.take_lookahead_fill 1
  cases hfilled : (c.fill 1).lookahead <;> cases hremaining : c.remaining <;> simp_all

theorem resembles_ahead (count : Nat) (c : Cursor) : c.Resembles (c.ahead count).2 :=
  c.resembles_fill count

/-- Looking ahead shows the first of the remaining characters. -/
@[simp] theorem ahead_fst (count : Nat) (c : Cursor)
    : (c.ahead count).1 = c.remaining.take count :=
  c.take_lookahead_fill count

theorem resembles_peek (offset : Nat) (c : Cursor) : c.Resembles (c.peek offset).2 :=
  c.resembles_fill (offset + 1)

/-- A peek shows the remaining character at its offset. -/
@[simp] theorem peek_fst (offset : Nat) (c : Cursor)
    : (c.peek offset).1 = c.remaining[offset]? := by
  have : (c.peek offset).1 = (c.ahead (offset + 1)).1[offset]? := rfl
  rw [this, ahead_fst, List.getElem?_take_of_lt (Nat.lt_succ_self offset)]

@[simp] theorem take_fst (count : Nat) (c : Cursor)
    : (c.take count).1 = c.remaining.take count :=
  c.take_lookahead_fill count

/-- Taking steps over the first of the remaining characters. -/
theorem stepsOver_take (count : Nat) (c : Cursor)
    : c.StepsOver (c.remaining.take count) (c.take count).2 := by
  have h := c.resembles_fill count
  have htake := c.take_lookahead_fill count
  refine ⟨?_, ?_, ?_⟩
  · show c.remaining
      = c.remaining.take count
        ++ ((c.fill count).lookahead.drop count ++ (c.fill count).source.remaining)
    rw [← htake, ← List.append_assoc, List.take_append_drop]
    exact h.remaining.symm
  · show (c.fill count).origin.advanceOver ((c.fill count).lookahead.take count) = _
    rw [htake, h.origin]
  · show (c.fill count).consumed + ((c.fill count).lookahead.take count).length = _
    rw [htake, h.consumed]

theorem reaches_take (count : Nat) (c : Cursor) : c.Reaches (c.take count).2 :=
  ⟨_, c.stepsOver_take count⟩

theorem remaining_take (count : Nat) (c : Cursor)
    : (c.take count).2.remaining = c.remaining.drop count := by
  have h := (c.stepsOver_take count).remaining
  conv at h => lhs; rw [← List.take_append_drop count c.remaining]
  exact (List.append_cancel_left h).symm

/-- A step gives the first of the remaining characters. -/
@[simp] theorem next_fst (c : Cursor) : c.next.1 = c.remaining.head? := by
  have : c.next.1 = (c.take 1).1.head? := rfl
  rw [this, take_fst]
  cases c.remaining <;> rfl

theorem remaining_next (c : Cursor) : c.next.2.remaining = c.remaining.tail := by
  have : c.next.2 = (c.take 1).2 := rfl
  rw [this, remaining_take, List.drop_one]

theorem reaches_next (c : Cursor) : c.Reaches c.next.2 := c.reaches_take 1

end Cursor

end Lexical
