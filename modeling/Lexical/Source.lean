/-! Sources of characters, asked one character at a time. The first time a source has none to give
it has ended, whatever it might have given later. A source that has ended is guarded: questions do
not get through to it any more, unless it is known to stay at its end by itself.
-/

namespace Lexical

/-- A source by the answers that it has not given yet; after the last of them it has none to give. A
steady source is one that is known to give none for good once it gave none. It was asked for a
character so many times, and so many of these questions got through to it.
-/
structure Source where
  pending : List (Option Char)
  steady : Bool := false
  ended : Bool := false
  asks : Nat := 0
  reads : Nat := 0
deriving DecidableEq, Repr

namespace Source

/-- The source of the characters of a text, which stays at its end. -/
def ofText (text : String) : Source := { pending := text.toList.map some, steady := true }

/-- The characters before the first gap. -/
def leading : List (Option Char) → List Char
  | some c :: rest => c :: leading rest
  | _ => []

/-- The characters that the source will still give. -/
def remaining (source : Source) : List Char :=
  if source.ended then [] else leading source.pending

/-- Asks for one character. Behind the end there is none, and only a steady source is asked there.
-/
def read (source : Source) : Option Char × Source :=
  if source.ended then
    (none,
      { source with asks := source.asks + 1, reads := source.reads + source.steady.toNat })
  else
    let asked := { source with asks := source.asks + 1, reads := source.reads + 1 }
    match source.pending with
    | some c :: rest => (some c, { asked with pending := rest })
    | none :: rest => (none, { asked with pending := rest, ended := true })
    | [] => (none, { asked with ended := true })

/-- Asks for so many characters or until the source ends, and puts them before those already read,
the latest first.
-/
def readOnto : Nat → List Char → Source → List Char × Source
  | 0, taken, source => (taken, source)
  | count + 1, taken, source =>
    match source.read with
    | (none, rest) => (taken, rest)
    | (some c, rest) => readOnto count (c :: taken) rest

/-- Asks for so many characters or until the source ends. -/
def readMany (count : Nat) (source : Source) : List Char × Source :=
  let (taken, rest) := source.readOnto count []
  (taken.reverse, rest)

@[simp] theorem leading_map_some (text : List Char) : leading (text.map some) = text := by
  induction text with
  | nil => rfl
  | cons c rest ih => simp [leading, ih]

@[simp] theorem remaining_ofText (text : String) : (ofText text).remaining = text.toList := by
  simp [remaining, ofText]

theorem read_fst (source : Source) : source.read.1 = source.remaining.head? := by
  unfold read remaining
  split
  · rfl
  · split <;> rename_i h <;> simp [h, leading]

theorem remaining_read (source : Source) : source.read.2.remaining = source.remaining.tail := by
  unfold read remaining
  split
  · simp [*]
  · split <;> rename_i h <;> simp_all [leading]

/-- A source has ended where it gave none. -/
theorem ended_read (source : Source)
    : source.read.2.ended = source.remaining.head?.isNone := by
  unfold read remaining
  split
  · simp [*]
  · split <;> simp_all [leading]

@[simp] theorem asks_read (source : Source) : source.read.2.asks = source.asks + 1 := by
  unfold read
  split
  · rfl
  · split <;> rfl

@[simp] theorem steady_read (source : Source) : source.read.2.steady = source.steady := by
  unfold read
  split
  · rfl
  · split <;> rfl

/-- A question gets through to a source that has not ended, and to a steady one. -/
theorem reads_read (source : Source)
    : source.read.2.reads
      = source.reads + if source.ended then source.steady.toNat else 1 := by
  unfold read
  split
  · rfl
  · split <;> rfl

theorem readOnto_fst (count : Nat) (taken : List Char) (source : Source)
    : (source.readOnto count taken).1 = (source.remaining.take count).reverse ++ taken := by
  induction count generalizing taken source with
  | zero => simp [readOnto]
  | succ count ih =>
    have hfst := source.read_fst
    have hrest := source.remaining_read
    rcases hread : source.read with ⟨c?, rest⟩
    rw [hread] at hfst hrest
    cases hsource : source.remaining with
    | nil => simp_all [readOnto]
    | cons c others => simp_all [readOnto]

theorem remaining_readOnto (count : Nat) (taken : List Char) (source : Source)
    : (source.readOnto count taken).2.remaining = source.remaining.drop count := by
  induction count generalizing taken source with
  | zero => simp [readOnto]
  | succ count ih =>
    have hfst := source.read_fst
    have hrest := source.remaining_read
    rcases hread : source.read with ⟨c?, rest⟩
    rw [hread] at hfst hrest
    cases hsource : source.remaining with
    | nil => simp_all [readOnto]
    | cons c others => simp_all [readOnto]

/-- Reading many gives the first of the remaining characters. -/
theorem readMany_fst (count : Nat) (source : Source)
    : (source.readMany count).1 = source.remaining.take count := by
  simp [readMany, readOnto_fst]

/-- Reading many leaves the others. -/
theorem remaining_readMany (count : Nat) (source : Source)
    : (source.readMany count).2.remaining = source.remaining.drop count := by
  simp [readMany, remaining_readOnto]

end Source

end Lexical
