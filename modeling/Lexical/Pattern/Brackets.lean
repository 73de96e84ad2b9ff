import Lexical.Pattern.Escape

/-! Classes of characters in brackets. Brackets may be nested, and classes combined by operations
that all bind alike, from the left.
-/

namespace Lexical.Pattern.Parser

/-- A union that is being read: its stretch, and its items, the latest first. -/
structure Union where
  span : Span
  items : List ClassExpr := []

/-- The union with one more item. Its stretch covers the items, once there are any. -/
def Union.push (union : Union) (item : ClassExpr) : Union where
  span := ⟨if union.items.isEmpty then item.span.start else union.span.start, item.span.stop⟩
  items := item :: union.items

/-- The class that the union is. -/
def Union.toClass (union : Union) : ClassExpr :=
  ClassExpr.ofItems union.span union.items.reverse

/-- What has been begun in brackets and not finished: brackets inside a union, with what opened
them, or an operation with its left side.
-/
inductive BracketFrame where
  | opened (outer : Union) (span : Span) (negated : Bool)
  | operation (kind : ClassOperation) (left : ClassExpr)

/-- The innermost open brackets. -/
def openedSpan? : List BracketFrame → Option Span
  | [] => none
  | .opened _ span _ :: _ => some span
  | .operation _ _ :: others => openedSpan? others

/-- Refuses the pattern because it ends inside brackets. -/
def failUnclosed (frames : List BracketFrame) : Parser α := do
  match openedSpan? frames with
  | some span => fail .classUnclosed span
  | none => failHere .classUnclosed

/-- Completes the operation whose right side has been read, if there is one. -/
def completeOperation (frames : List BracketFrame) (right : ClassExpr)
    : List BracketFrame × ClassExpr :=
  match frames with
  | .operation kind left :: others =>
    (others, .operation ⟨left.span.start, right.span.stop⟩ kind left right)
  | _ => (frames, right)

/-- The class of ASCII characters with a name. -/
def asciiClassOf? : String → Option AsciiClass
  | "alnum" => some .alnum
  | "alpha" => some .alpha
  | "ascii" => some .ascii
  | "blank" => some .blank
  | "cntrl" => some .cntrl
  | "digit" => some .digit
  | "graph" => some .graph
  | "lower" => some .lower
  | "print" => some .print
  | "punct" => some .punct
  | "space" => some .space
  | "upper" => some .upper
  | "word" => some .word
  | "xdigit" => some .xdigit
  | _ => none

/-- A named class of ASCII characters at the start of a text, with its length. -/
def asciiClass? : List Char → Option (Bool × AsciiClass × Nat)
  | '[' :: ':' :: rest =>
    let (negated, named) :=
      match rest with
      | '^' :: named => (true, named)
      | _ => (false, rest)
    let name := named.takeWhile (· != ':')
    if [':', ']'].isPrefixOf (named.drop name.length) then
      (asciiClassOf? (String.ofList name)).map fun kind =>
        (negated, kind, name.length + if negated then 5 else 4)
    else none
  | _ => none

/-- Takes the minus signs at the start of a class, which stand for themselves, at most so many. -/
def leadingMinuses (start : Place) : Nat → Union → Parser Union
  | 0, union => pure union
  | fuel + 1, union => do
    if ← sees '-' then
      let union := union.push (.literal ⟨← charSpan, '-', false⟩)
      if !(← skipOn) then fail .classUnclosed (.empty start)
      leadingMinuses start fuel union
    else pure union

/-- Opens brackets: the sign of a negated class, and minus signs or else a closing bracket that
stand for themselves.
-/
def openBrackets (frames : List BracketFrame) (outer : Union)
    : Parser (List BracketFrame × Union) := do
  let start ← place
  if !(← skipOn) then failFrom start .classUnclosed
  let negated ← sees '^'
  if negated then
    if !(← skipOn) then failFrom start .classUnclosed
  let union ← leadingMinuses start ((← get).rest.length + 1) ⟨.empty (← place), []⟩
  let union ←
    if union.items.isEmpty && (← sees ']') then
      let union := union.push (.literal ⟨← charSpan, ']', false⟩)
      if !(← skipOn) then failFrom start .classUnclosed
      pure union
    else pure union
  pure (.opened outer (← spanFrom start) negated :: frames, union)

/-- Takes a character or an escape in brackets. -/
def bracketAtom : Parser Atom := do
  match ← peek with
  | some '\\' => escape
  | some c =>
    let span ← charSpan
    discard skip
    pure (.literal ⟨span, c, false⟩)
  | none => failHere .classUnclosed

/-- The class that an atom stands for. -/
def atomClass : Atom → Parser ClassExpr
  | .literal char => pure (.literal char)
  | .property span negated property => pure (.property span negated property)
  | .letterClass span negated kind => pure (.letterClass span negated kind)
  | .dot span | .assertion span _ => fail .classEscapeInvalid span

/-- The character that an atom stands for at the end of a range. -/
def atomLiteral : Atom → Parser Literal
  | .literal char => pure char
  | atom => fail .classRangeLiteral atom.span

/-- Takes an item of a class: an atom, or a range between two characters. -/
def bracketItem (frames : List BracketFrame) : Parser ClassExpr := do
  let first ← bracketAtom
  skipBlanks
  if ← atEnd then failUnclosed frames
  let second ← peekSecond
  if !(← sees '-') || second == some ']' || second == some '-' then atomClass first
  else
    if !(← skipOn) then failUnclosed frames
    let last ← bracketAtom
    let span : Span := ⟨first.span.start, last.span.stop⟩
    let low ← atomLiteral first
    let high ← atomLiteral last
    if high.char < low.char then fail .classRangeInvalid span
    pure (.range span low high)

/-- The operation that the next two characters stand for. -/
def operation? : Parser (Option ClassOperation) := do
  match (← get).rest with
  | '&' :: '&' :: _ => pure (some .intersection)
  | '-' :: '-' :: _ => pure (some .difference)
  | '~' :: '~' :: _ => pure (some .symmetricDifference)
  | _ => pure none

/-- Reads on in open brackets, until the outermost ones are closed, at most so many steps. -/
def bracketsFrom : Nat → List BracketFrame → Union → Parser Expr
  | 0, frames, _ => failUnclosed frames
  | fuel + 1, frames, union => do
    skipBlanks
    match ← peek with
    | none => failUnclosed frames
    | some '[' =>
      match asciiClass? (← get).rest with
      | some (negated, kind, length) =>
        let start ← place
        discard (skipIf ((← get).rest.take length))
        bracketsFrom fuel frames (union.push (.ascii (← spanFrom start) negated kind))
      | none =>
        let (frames, union) ← openBrackets frames union
        bracketsFrom fuel frames union
    | some ']' =>
      let (frames, content) := completeOperation frames union.toClass
      discard skip
      match frames with
      | .opened outer span negated :: others =>
        let span : Span := ⟨span.start, ← place⟩
        if others.isEmpty then pure (.bracketed span negated content)
        else bracketsFrom fuel others (outer.push (.bracketed span negated content))
      | _ => failHere .classUnclosed
    | some _ =>
      match ← operation? with
      | some kind =>
        let (frames, left) := completeOperation frames union.toClass
        discard skip
        discard skip
        bracketsFrom fuel (.operation kind left :: frames) ⟨.empty (← place), []⟩
      | none =>
        let item ← bracketItem frames
        bracketsFrom fuel frames (union.push item)

/-- Reads a class from its opening bracket on. -/
def brackets : Parser Expr := do
  let (frames, union) ← openBrackets [] ⟨.empty (← place), []⟩
  bracketsFrom ((← get).rest.length + 1) frames union

end Lexical.Pattern.Parser
