/-! Sets of characters as ascending ranges of code points. Membership walks the ranges and stops at
the first one that starts past the character.
-/

namespace Lexical

/-- Ranges of code points, both ends included, each past the one before it. -/
structure CharSet where
  ranges : List (Nat × Nat)
deriving DecidableEq, Repr

namespace CharSet

/-- Whether a code point lies in one of the ranges, by the first range that does not end before
it.
-/
def covers : List (Nat × Nat) → Nat → Bool
  | [], _ => false
  | (first, last) :: rest, code =>
    if code < first then false
    else if code ≤ last then true
    else covers rest code

/-- Whether the set holds the character. -/
def contains (set : CharSet) (c : Char) : Bool :=
  covers set.ranges c.toNat

/-- The set of no characters. -/
def empty : CharSet := ⟨[]⟩

/-- The set of one character. -/
def singleton (c : Char) : CharSet := ⟨[(c.toNat, c.toNat)]⟩

/-- The largest code point. -/
def maxCode : Nat := 0x10FFFF

/-- Puts a range among ascending ranges, as one with those that it overlaps or touches. -/
def insertRange (first last : Nat) : List (Nat × Nat) → List (Nat × Nat)
  | [] => [(first, last)]
  | (start, stop) :: rest =>
    if last + 1 < start then (first, last) :: (start, stop) :: rest
    else if stop + 1 < first then (start, stop) :: insertRange first last rest
    else insertRange (min first start) (max last stop) rest

/-- The set of the characters in any of the ranges, in whatever order they come. -/
def ofRanges (ranges : List (Nat × Nat)) : CharSet :=
  ⟨ranges.foldr (fun (first, last) others => insertRange first last others) []⟩

/-- The set of the characters in the list. -/
def ofList (chars : List Char) : CharSet :=
  ofRanges (chars.map fun c => (c.toNat, c.toNat))

/-- The characters of either set. -/
def union (a b : CharSet) : CharSet :=
  ⟨a.ranges.foldr (fun (first, last) others => insertRange first last others) b.ranges⟩

/-- The gaps between ranges, from a code point on. -/
def gaps (next : Nat) : List (Nat × Nat) → List (Nat × Nat)
  | [] => if next ≤ maxCode then [(next, maxCode)] else []
  | (first, last) :: rest =>
    if next < first then (next, first - 1) :: gaps (last + 1) rest else gaps (last + 1) rest

/-- The characters that the set does not hold. -/
def complement (set : CharSet) : CharSet :=
  ⟨gaps 0 set.ranges⟩

/-- The characters of both sets. -/
def intersection (a b : CharSet) : CharSet :=
  (a.complement.union b.complement).complement

/-- The characters of the first set that the second does not hold. -/
def difference (a b : CharSet) : CharSet :=
  (a.complement.union b).complement

/-- The characters of one set but not of both. -/
def symmetricDifference (a b : CharSet) : CharSet :=
  (a.difference b).union (b.difference a)

@[simp] theorem contains_empty (c : Char) : empty.contains c = false := rfl

end CharSet

end Lexical
