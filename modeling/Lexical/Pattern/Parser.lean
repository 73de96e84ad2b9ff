import Lexical.Pattern.Brackets
import Lexical.Text.Letter

/-! Reading whole patterns: groups, alternatives and repetitions. Groups that are open and
alternatives that came before are kept on a stack.
-/

namespace Lexical.Pattern.Parser

/-- A sequence that is being read: where it began, and its parts, the latest first. -/
structure Sequence where
  start : Place
  parts : List Expr := []

/-- The expression that the sequence is, up to a place. -/
def Sequence.toExpr (sequence : Sequence) (stop : Place) : Expr :=
  Expr.ofParts ⟨sequence.start, stop⟩ sequence.parts.reverse

/-- The sequence with one more part. -/
def Sequence.push (sequence : Sequence) (part : Expr) : Sequence :=
  { sequence with parts := part :: sequence.parts }

/-- The beginning of a group: the stretch that opened it, whether what it matches is captured, and
the flags that hold in it.
-/
structure GroupStart where
  span : Span
  captures : Bool
  flags : List FlagItem := []

/-- What has been begun and not finished: a group inside a sequence, with what held outside, or
alternatives that came before, the latest first.
-/
inductive Frame where
  | group (outer : Sequence) (start : GroupStart) (ignoredBlanks : Bool)
  | alternatives (start : Place) (branches : List Expr)

/-- The flag that a letter stands for. -/
def flagOf? : Char → Option Flag
  | 'i' => some .caseInsensitive
  | 'm' => some .multiLine
  | 's' => some .dotMatchesNewLine
  | 'U' => some .swapGreed
  | 'u' => some .unicode
  | 'R' => some .crlf
  | 'x' => some .ignoreBlanks
  | _ => none

/-- The item that a letter or a minus sign stands for. -/
def flagItem : Parser FlagItem := do
  let span ← charSpan
  match ← peek with
  | some '-' => pure ⟨none, span⟩
  | some c =>
    match flagOf? c with
    | some flag => pure ⟨some flag, span⟩
    | none => fail .flagUnrecognized span
  | none => fail .flagCutShort span

/-- Takes flags up to the colon or the parenthesis behind them, at most so many. -/
def flagsOnto : Nat → List FlagItem → Parser (List FlagItem)
  | 0, items => pure items.reverse
  | fuel + 1, items => do
    if (← sees ':') || (← sees ')') then
      match items with
      | ⟨none, span⟩ :: _ => fail .flagDanglingNegation span
      | _ => pure items.reverse
    else
      let item ← flagItem
      match items.find? (·.flag? == item.flag?) with
      | some earlier =>
        let reason := if item.flag?.isNone then .flagRepeatedNegation else .flagDuplicate
        failAgain reason item.span earlier.span
      | none =>
        if !(← skip) then failHere .flagCutShort
        flagsOnto fuel (item :: items)

/-- Whether the character may stand in the name of a group. -/
def isNamePart (first : Bool) (c : Char) : Bool :=
  if first then c == '_' || Lexical.Text.isLetter c
  else "_.[]".toList.contains c || Lexical.Text.isAlphanumeric c

/-- Takes the name of a group up to the angle bracket behind it, at most so many characters. -/
def nameOnto : Nat → List Char → Parser (List Char)
  | 0, taken => pure taken.reverse
  | fuel + 1, taken => do
    match ← peek with
    | some '>' => pure taken.reverse
    | some c =>
      if isNamePart taken.isEmpty c then
        discard skip
        nameOnto fuel (c :: taken)
      else failChar .groupNameInvalid
    | none => failHere .groupNameCutShort

/-- Takes the name of a group, which no other group may have. -/
def groupName : Parser Unit := do
  let start ← place
  let name := String.ofList (← nameOnto ((← get).rest.length + 1) [])
  let span ← spanFrom start
  discard skip
  if name.isEmpty then fail .groupNameEmpty (.empty start)
  match (← get).names.lookup name with
  | some earlier => failAgain .groupNameDuplicate span earlier
  | none => modify fun text => { text with names := (name, span) :: text.names }

/-- What an opening parenthesis begins: flags for the rest of the group around it, or a group. -/
inductive Opening where
  | flags (span : Span) (items : List FlagItem)
  | group (start : GroupStart)

/-- Whether one of the given texts comes next, which is then passed over. -/
def skipAnyIf : List String → Parser Bool
  | [] => pure false
  | text :: others => do
    if ← skipIf text.toList then pure true else skipAnyIf others

/-- Takes an opening parenthesis and what belongs to it. -/
def opening : Parser Opening := do
  let span ← charSpan
  discard skip
  skipBlanks
  if ← skipAnyIf ["?=", "?!", "?<=", "?<!"] then failFrom span.start .lookAround
  let inner ← place
  if ← skipAnyIf ["?P<", "?<"] then
    groupName
    pure (.group { span, captures := true })
  else if ← skipIf ['?'] then
    if ← atEnd then fail .groupUnclosed span
    let items ← flagsOnto ((← get).rest.length + 1) []
    let closed ← sees ')'
    discard skip
    if !closed then pure (.group { span, captures := false, flags := items })
    else if items.isEmpty then fail .repetitionMissing (.empty inner)
    else pure (.flags (← spanFrom span.start) items)
  else pure (.group { span, captures := true })

/-- Whether flags make blanks say nothing, where they tell. -/
def setIgnoresBlanks (items : List FlagItem) : Parser Unit :=
  modify fun text =>
    { text with ignoresBlanks := (flagState? .ignoreBlanks items true).getD text.ignoresBlanks }

/-- Opens a group, or sets flags. -/
def openGroup (frames : List Frame) (sequence : Sequence) : Parser (List Frame × Sequence) := do
  match ← opening with
  | .flags span items =>
    setIgnoresBlanks items
    pure (frames, sequence.push (.flags span items))
  | .group start =>
    let outside := (← get).ignoresBlanks
    setIgnoresBlanks start.flags
    pure (.group sequence start outside :: frames, { start := ← place })

/-- Ends a branch at a bar. -/
def nextBranch (frames : List Frame) (sequence : Sequence) : Parser (List Frame × Sequence) := do
  let branch := sequence.toExpr (← place)
  discard skip
  let frames :=
    match frames with
    | .alternatives start branches :: others => .alternatives start (branch :: branches) :: others
    | _ => .alternatives sequence.start [branch] :: frames
  pure (frames, { start := ← place })

/-- Completes the alternatives that end with a branch, if there are any. -/
def completeBranches (frames : List Frame) (branch : Expr) (stop : Place)
    : List Frame × Expr :=
  match frames with
  | .alternatives start branches :: others =>
    (others, .alternation ⟨start, stop⟩ (branch :: branches).reverse)
  | _ => (frames, branch)

/-- Closes a group. -/
def closeGroup (frames : List Frame) (sequence : Sequence) : Parser (List Frame × Sequence) := do
  let stop ← place
  match completeBranches frames (sequence.toExpr stop) stop with
  | (.group outer start outside :: others, body) =>
    modify fun text => { text with ignoresBlanks := outside }
    discard skip
    pure (others, outer.push (.group ⟨start.span.start, ← place⟩ start.captures start.flags body))
  | _ => failChar .groupUnopened

/-- Splits off the part that a repetition is about. -/
def repeated (sequence : Sequence) : Parser (Expr × Sequence) := do
  match sequence.parts with
  | [] | .empty _ :: _ | .flags _ _ :: _ => failHere .repetitionMissing
  | part :: others => pure (part, { sequence with parts := others })

/-- Takes a sign for zero or one, any number, or at least one time, and perhaps that for the fewest
times.
-/
def repetitionSign (sequence : Sequence) (least : Nat) (most? : Option Nat) : Parser Sequence := do
  let (part, sequence) ← repeated sequence
  let more ← skip
  let lazy ← if more then sees '?' else pure false
  if lazy then discard skip
  pure (sequence.push (.repetition ⟨part.span.start, ← place⟩ least most? (!lazy) part))

/-- The largest count. -/
def maxCount : Nat := 0xffffffff

/-- Takes a decimal number with blanks around it, or tells why there is none. -/
def decimal : Parser (Except Fault Nat) := do
  modify fun text =>
    let (rest, place) := dropWhile Lexical.Text.isBlank text.rest text.place
    { text with rest, place }
  let start ← place
  let digits ← takeAll Char.isDigit
  let span ← spanFrom start
  discard (takeAll Lexical.Text.isBlank)
  let value := digits.foldl (fun value c => 10 * value + (c.toNat - '0'.toNat)) 0
  if digits.isEmpty then pure (.error (.refused .countDecimalEmpty span none))
  else if maxCount < value then pure (.error (.refused .decimalInvalid span none))
  else pure (.ok value)

/-- The number, or the refusal for its absence. -/
def required : Except Fault Nat → Parser Nat
  | .ok value => pure value
  | .error fault => throw fault

/-- Takes the numbers of a counted repetition, behind its opening brace. -/
def counts (start : Place) : Parser (Nat × Option Nat) := do
  let least ← decimal
  if ← atEnd then failFrom start .countUnclosed
  if ← sees ',' then
    if !(← skipOn) then failFrom start .countUnclosed
    if ← sees '\x7d' then pure (← required least, none)
    else
      let least ← required least
      let most ← required (← decimal)
      pure (least, some most)
  else
    let exactly ← required least
    pure (exactly, some exactly)

/-- Takes a counted repetition, and perhaps the sign for the fewest times. -/
def countedRepetition (sequence : Sequence) : Parser Sequence := do
  let start ← place
  let (part, sequence) ← repeated sequence
  if !(← skipOn) then failFrom start .countUnclosed
  let (least, most?) ← counts start
  if !(← sees '\x7d') then failFrom start .countUnclosed
  let more ← skipOn
  let lazy ← if more then sees '?' else pure false
  if lazy then discard skip
  if most?.any (· < least) then failFrom start .countInvalid
  pure (sequence.push (.repetition ⟨part.span.start, ← place⟩ least most? (!lazy) part))

/-- Takes a character that stands for itself or for something simple. -/
def atom : Parser Atom := do
  let span ← charSpan
  match ← peek with
  | some '\\' => escape
  | some '.' => discard skip; pure (.dot span)
  | some '^' => discard skip; pure (.assertion span .startLine)
  | some '$' => discard skip; pure (.assertion span .endLine)
  | some c => discard skip; pure (.literal ⟨span, c, false⟩)
  | none => fail .groupUnclosed span

/-- Closes the whole pattern, where no group may be open. -/
def finish (frames : List Frame) (sequence : Sequence) : Parser Expr := do
  let stop ← place
  match completeBranches frames (sequence.toExpr stop) stop with
  | ([], whole) => pure whole
  | (.group _ start _ :: _, _) => fail .groupUnclosed start.span
  | (.alternatives start _ :: _, _) => failFrom start .groupUnclosed

/-- Reads on until nothing is left, at most so many steps. -/
def expressionFrom : Nat → List Frame → Sequence → Parser Expr
  | 0, frames, sequence => finish frames sequence
  | fuel + 1, frames, sequence => do
    skipBlanks
    match ← peek with
    | none => finish frames sequence
    | some '(' =>
      let (frames, sequence) ← openGroup frames sequence
      expressionFrom fuel frames sequence
    | some ')' =>
      let (frames, sequence) ← closeGroup frames sequence
      expressionFrom fuel frames sequence
    | some '|' =>
      let (frames, sequence) ← nextBranch frames sequence
      expressionFrom fuel frames sequence
    | some '[' => expressionFrom fuel frames (sequence.push (← brackets))
    | some '?' => expressionFrom fuel frames (← repetitionSign sequence 0 (some 1))
    | some '*' => expressionFrom fuel frames (← repetitionSign sequence 0 none)
    | some '+' => expressionFrom fuel frames (← repetitionSign sequence 1 none)
    | some '\x7b' => expressionFrom fuel frames (← countedRepetition sequence)
    | some _ => expressionFrom fuel frames (sequence.push (.atom (← atom)))

/-- How deep expressions may be nested. -/
def maxDepth : Nat := 250

/-- Reads a whole pattern. -/
def expression : Parser Expr := do
  let whole ← expressionFrom ((← get).rest.length + 1) [] { start := ← place }
  match whole.tooDeep? maxDepth 0 with
  | some span => fail (.nestedTooDeeply maxDepth) span
  | none => pure whole

end Lexical.Pattern.Parser

namespace Lexical.Pattern

/-- The expression that a text stands for. -/
def Expr.ofText (text : String) : Except Fault Expr :=
  Prod.fst <$> (Parser.expression.run { rest := text.toList })

end Lexical.Pattern
