import Lexical.Text.CharSet

/-! What patterns mean: sets of characters, conditions between characters, and their sequences,
alternatives and repetitions. Where several matches are possible, the order of alternatives and the
greed of repetitions say which one is preferred.
-/

namespace Lexical.Pattern

/-- A condition on the characters before and behind a place. -/
inductive Look where
  | startText
  | endText
  | startLine
  | endLine
  | startLineCrlf
  | endLineCrlf
  | boundary (word : CharSet)
  | notBoundary (word : CharSet)
  | wordStart (word : CharSet)
  | wordEnd (word : CharSet)
  | wordStartHalf (word : CharSet)
  | wordEndHalf (word : CharSet)
deriving DecidableEq

/-- A pattern without flags. A greedy repetition goes on as long as it can, and another one stops as
soon as it can; of two alternatives the first is preferred.
-/
inductive Meaning where
  | empty
  | chars (set : CharSet)
  | look (condition : Look)
  | captured (body : Meaning)
  | seq (first second : Meaning)
  | alt (first second : Meaning)
  | repetition (least : Nat) (most? : Option Nat) (greedy : Bool) (body : Meaning)
deriving DecidableEq

namespace Meaning

/-- Whether there is nothing to match but the empty text. -/
def isEmpty : Meaning → Bool
  | empty => true
  | chars _ => false
  | look _ => true
  | captured body => body.isEmpty
  | seq first second => first.isEmpty && second.isEmpty
  | alt first second => first.isEmpty && second.isEmpty
  | repetition _ _ _ body => body.isEmpty

/-- A repetition. More than once makes no difference where there is nothing to match but the empty
text, and exactly once is no repetition.
-/
def repeated (least : Nat) (most? : Option Nat) (greedy : Bool) (body : Meaning) : Meaning :=
  let (least, most?) :=
    if body.isEmpty then (min least 1, some ((most?.map (min · 1)).getD 1)) else (least, most?)
  match least, most? with
  | 0, some 0 => empty
  | 1, some 1 => body
  | least, most? => repetition least most? greedy body

/-- The parts of a sequence that are no sequences themselves. -/
def parts : Meaning → List Meaning
  | empty => []
  | seq first second => first.parts ++ second.parts
  | part => [part]

/-- One part after the other. -/
def inOrder : List Meaning → Meaning
  | [] => empty
  | [part] => part
  | part :: others => seq part (inOrder others)

/-- The alternatives that are no alternatives themselves. -/
def branches : Meaning → List Meaning
  | alt first second => first.branches ++ second.branches
  | branch => [branch]

/-- Any of the alternatives, of which there is at least one, in the order of preference. -/
def anyOf : Meaning → List Meaning → Meaning
  | first, [] => first
  | first, second :: others => alt first (anyOf second others)

/-- Whether it matches one fixed character. -/
def isLetter : Meaning → Bool
  | chars ⟨[(first, last)]⟩ => first == last
  | _ => false

/-- Parts in a row, where fixed characters in a row are one piece. -/
def pieces : List Meaning → List (List Meaning)
  | [] => []
  | part :: others =>
    match pieces others with
    | (next :: run) :: rest =>
      if part.isLetter && next.isLetter then (part :: next :: run) :: rest
      else [part] :: (next :: run) :: rest
    | rest => [part] :: rest

/-- Whether something is captured. -/
def captures : Meaning → Bool
  | empty | chars _ | look _ => false
  | captured _ => true
  | seq first second | alt first second => first.captures || second.captures
  | repetition _ _ _ body => body.captures

/-- The pieces that two sequences begin with alike. What is captured is never alike. -/
def sharedPieces : List (List Meaning) → List (List Meaning) → List (List Meaning)
  | first :: others, second :: rest =>
    if first = second ∧ ¬first.any captures then first :: sharedPieces others rest else []
  | _, _ => []

/-- The set of characters that it matches one of. -/
def set? : Meaning → Option CharSet
  | chars set => some set
  | _ => none

/-- Any of the alternatives as one set, if each is a set. -/
def merged (first : Meaning) (others : List Meaning) : Meaning :=
  match (first :: others).mapM set? with
  | some sets => chars (CharSet.ofRanges (sets.flatMap CharSet.ranges))
  | none => anyOf first others

/-- Any of the alternatives. Sequences that all begin with the same pieces are told apart behind
these only: a match that is preferred for these pieces is preferred to one of an earlier
alternative.
-/
def oneOf (first : Meaning) (others : List Meaning) : Meaning :=
  let sequences := (first :: others).map fun branch => pieces branch.parts
  let shared :=
    match sequences with
    | [] => []
    | one :: more => if sequences.all (2 ≤ ·.length) then more.foldl sharedPieces one else []
  match shared, sequences with
  | _ :: _, one :: more =>
    let rest (sequence : List (List Meaning)) := inOrder (sequence.drop shared.length).flatten
    seq (inOrder shared.flatten) (merged (rest one) (more.map rest))
  | _, _ => merged first others

/-- Any of the alternatives, where those of an alternative stand for themselves. Without
alternatives nothing matches.
-/
def choice (alternatives : List Meaning) : Meaning :=
  match alternatives.flatMap branches with
  | [] => chars .empty
  | [one] => one
  | first :: others => oneOf first others

end Meaning

end Lexical.Pattern
