import Lexical.Pattern.Meaning

/-! Programs for patterns. A program is run over a text with all its threads side by side, in the
order in which their matches are preferred; a thread that would repeat an earlier one is dropped,
so that the time for a character is bounded by the size of the program.
-/

namespace Lexical.Pattern

/-- A step of a program. All but jumps and splits go on with the next step. -/
inductive Instruction where
  | chars (set : CharSet)
  | look (condition : Look)
  | jump (target : Nat)
  | split (preferred other : Nat)
  | accept

namespace Meaning

/-- The room that a set takes in a compiled program, in bytes: more where it goes beyond ASCII. -/
def setWeight (set : CharSet) : Nat :=
  match set.ranges with
  | [] => 32
  | [(first, last)] =>
    if last < 0x80 then 32
    else if first = last then 32 * (Char.ofNat first).utf8Size
    else 256
  | ranges =>
    if ranges.all (·.2 < 0x80) then 32 + 8 * ranges.length else 64 * ranges.length

/-- The room that a compiled program takes, in bytes. -/
def weight : Meaning → Nat
  | empty => 32
  | chars set => setWeight set
  | look _ => 32
  | captured body => body.weight + 64
  | seq first second => first.weight + second.weight
  | alt first second => first.weight + second.weight + 40
  | repetition least (some most) _ body =>
    least * body.weight + (most - least) * (body.weight + 40)
  | repetition least none _ body => max least 1 * body.weight + 80

/-- So many copies of a piece of program, one after the other. -/
def copies (emit : Array Instruction → Array Instruction)
    : Nat → Array Instruction → Array Instruction
  | 0, code => code
  | count + 1, code => copies emit count (emit code)

/-- A choice between going on with the next step and going on elsewhere. -/
def choose (greedy : Bool) (next elsewhere : Nat) : Instruction :=
  if greedy then .split next elsewhere else .split elsewhere next

/-- So many optional copies of a piece of program of the given size, each tried after the one before
it.
-/
def optionalCopies (greedy : Bool) (size : Nat) (emit : Array Instruction → Array Instruction)
    : Nat → Array Instruction → Array Instruction
  | 0, code => code
  | count + 1, code =>
    let stop := code.size + (count + 1) * (size + 1)
    optionalCopies greedy size emit count
      (emit (code.push (choose greedy (code.size + 1) stop)))

/-- A piece of program any number of times, but at least once. -/
def repeatedCopies (greedy : Bool) (emit : Array Instruction → Array Instruction)
    (code : Array Instruction)
    : Array Instruction :=
  let start := code.size
  let code := emit code
  code.push (choose (!greedy) (code.size + 1) start)

/-- The number of steps of a piece of program. -/
def size : Meaning → Nat
  | empty => 0
  | chars _ => 1
  | look _ => 1
  | captured body => body.size
  | seq first second => first.size + second.size
  | alt first second => first.size + second.size + 2
  | repetition least (some most) _ body => least * body.size + (most - least) * (body.size + 1)
  | repetition 0 none _ body => body.size + 2
  | repetition (least + 1) none _ body => (least + 1) * body.size + 1

/-- Appends the program for a meaning. -/
def emit : Meaning → Array Instruction → Array Instruction
  | empty, code => code
  | chars set, code => code.push (.chars set)
  | look condition, code => code.push (.look condition)
  | captured body, code => body.emit code
  | seq first second, code => second.emit (first.emit code)
  | alt first second, code =>
    let middle := code.size + 1 + first.size
    let code := first.emit (code.push (.split (code.size + 1) (middle + 1)))
    second.emit (code.push (.jump (middle + 1 + second.size)))
  | repetition least (some most) greedy body, code =>
    optionalCopies greedy body.size body.emit (most - least) (copies body.emit least code)
  | repetition 0 none greedy body, code =>
    let stop := code.size + body.size + 2
    repeatedCopies greedy body.emit (code.push (choose greedy (code.size + 1) stop))
  | repetition (least + 1) none greedy body, code =>
    repeatedCopies greedy body.emit (copies body.emit least code)

/-- The program for a meaning. -/
def program (meaning : Meaning) : Array Instruction :=
  (meaning.emit #[]).push .accept

end Meaning

/-- Whether there is a character and it is in the set. -/
def isIn (set : CharSet) (c? : Option Char) : Bool :=
  c?.any set.contains

/-- Whether the condition holds between two characters, or at an end of the text. -/
def Look.holds (before after : Option Char) : Look → Bool
  | startText => before.isNone
  | endText => after.isNone
  | startLine => before.isNone || before == some '\n'
  | endLine => after.isNone || after == some '\n'
  | startLineCrlf =>
    before.isNone || before == some '\n' || (before == some '\r' && after != some '\n')
  | endLineCrlf =>
    after.isNone || after == some '\r' || (after == some '\n' && before != some '\r')
  | boundary word => isIn word before != isIn word after
  | notBoundary word => isIn word before == isIn word after
  | wordStart word => !isIn word before && isIn word after
  | wordEnd word => isIn word before && !isIn word after
  | wordStartHalf word => !isIn word before
  | wordEndHalf word => !isIn word after

/-- The threads at a place: the steps that have been reached, as a set of bits, and of these the
ones that wait for a character or accept, the latest first.
-/
structure Threads where
  reached : Nat := 0
  waiting : List Nat := []

/-- Follows steps that need no character, at most so many, from the steps on a stack. -/
def follow (code : Array Instruction) (before after : Option Char)
    : Nat → List Nat → Threads → Threads
  | 0, _, threads => threads
  | _, [], threads => threads
  | fuel + 1, step :: stack, threads =>
    if threads.reached.testBit step then follow code before after fuel stack threads
    else
      let threads := { threads with reached := threads.reached ||| 1 <<< step }
      match code[step]? with
      | some (.jump target) => follow code before after fuel (target :: stack) threads
      | some (.split preferred other) =>
        follow code before after fuel (preferred :: other :: stack) threads
      | some (.look condition) =>
        let stack := if condition.holds before after then (step + 1) :: stack else stack
        follow code before after fuel stack threads
      | some _ =>
        follow code before after fuel stack { threads with waiting := step :: threads.waiting }
      | none => follow code before after fuel stack threads

/-- Follows steps that need no character from one step on; each is reached from at most two. -/
def spread (code : Array Instruction) (before after : Option Char) (threads : Threads)
    (step : Nat)
    : Threads :=
  follow code before after (2 * code.size + 2) [step] threads

/-- The threads that go on behind a character, in order. -/
def advance (code : Array Instruction) (c : Char) (after : Option Char) (waiting : List Nat)
    : List Nat :=
  let threads := waiting.foldl
    (fun threads step =>
      match code[step]? with
      | some (.chars set) =>
        if set.contains c then spread code (some c) after threads (step + 1) else threads
      | _ => threads)
    {}
  threads.waiting.reverse

/-- Whether the program accepts at a step. -/
def accepts (code : Array Instruction) (step : Nat) : Bool :=
  match code[step]? with
  | some .accept => true
  | _ => false

/-- Runs threads over a text from an offset on. A thread that accepts is preferred to those behind
it and to what was accepted before, and those before it go on.
-/
def search (code : Array Instruction) (offset : Nat) (waiting : List Nat) (best : Option Nat)
    (text : List Char)
    : Option Nat :=
  let best := if waiting.any (accepts code) then some offset else best
  let waiting := waiting.takeWhile fun step => !accepts code step
  match text with
  | [] => best
  | c :: rest =>
    if waiting.isEmpty then best
    else search code (offset + 1) (advance code c rest.head? waiting) best rest

/-- The length of the preferred match at the start of a text. -/
def extent (code : Array Instruction) (text : List Char) : Option Nat :=
  search code 0 (spread code none text.head? {} 0).waiting.reverse none text

/-- No match ends behind the text. -/
theorem search_le {code : Array Instruction} {offset : Nat} {waiting : List Nat}
    {best : Option Nat} {text : List Char} {length : Nat}
    (hbest : ∀ n, best = some n → n ≤ offset)
    (h : search code offset waiting best text = some length)
    : length ≤ offset + text.length := by
  induction text generalizing offset waiting best with
  | nil =>
    simp only [search] at h
    split at h
    · simp_all
    · exact hbest _ h
  | cons c rest ih =>
    simp only [search] at h
    have hbest' : ∀ n, (if waiting.any (accepts code) then some offset else best) = some n
        → n ≤ offset := by
      intro n hn
      split at hn
      · simp_all
      · exact hbest n hn
    split at h
    · exact Nat.le_trans (hbest' _ h) (Nat.le_add_right _ _)
    · have := ih (fun n hn => Nat.le_succ_of_le (hbest' n hn)) h
      simp only [List.length_cons]
      omega

/-- The preferred match lies in the text. -/
theorem extent_le_length (code : Array Instruction) (text : List Char) (length : Nat)
    (h : extent code text = some length)
    : length ≤ text.length := by
  simpa using search_le (by simp) h

end Lexical.Pattern
