import Lexical.Pattern.Text

/-! Escapes in patterns: what a backslash and the characters behind it stand for. -/

namespace Lexical.Pattern.Parser

/-- The characters that mean something of their own in a pattern. -/
def isMeta (c : Char) : Bool :=
  "\\.+*?()|[]\x7b\x7d^$#&-~".toList.contains c

/-- Whether a backslash before the character leaves it as it is. -/
def isEscapable (c : Char) : Bool :=
  isMeta c || (c.toNat < 0x80 && !c.isAlphanum && c != '<' && c != '>')

/-- Whether the character is a hexadecimal digit. -/
def isHex (c : Char) : Bool :=
  c.isDigit || ('a' ≤ c && c ≤ 'f') || ('A' ≤ c && c ≤ 'F')

/-- The value of a hexadecimal digit. -/
def hexValue (c : Char) : Nat :=
  if c.isDigit then c.toNat - '0'.toNat else c.toLower.toNat - 'a'.toNat + 10

/-- The character with a code point in hexadecimal, if there is one. -/
def charOfHex? (digits : List Char) : Option Char :=
  let code := digits.foldl (fun value c => 16 * value + hexValue c) 0
  if code.isValidChar then some (Char.ofNat code) else none

/-- How many hexadecimal digits a letter calls for. -/
def hexWidth : Char → Nat
  | 'x' => 2
  | 'u' => 4
  | _ => 8

/-- Takes so many hexadecimal digits. -/
def hexDigits : Nat → List Char → Parser (List Char)
  | 0, taken => pure taken.reverse
  | count + 1, taken => do
    match ← peek with
    | none => failHere .escapeCutShort
    | some c =>
      if isHex c then
        if !(← skipOn) && count != 0 then failHere .escapeCutShort
        hexDigits count (c :: taken)
      else failChar .hexInvalidDigit

/-- Takes hexadecimal digits up to a closing brace, at most so many, behind an opening brace. -/
def bracedHexDigits (brace : Place) : Nat → List Char → Parser (List Char)
  | 0, _ => failFrom brace .escapeCutShort
  | fuel + 1, taken => do
    match ← peek with
    | none => failFrom brace .escapeCutShort
    | some c =>
      if c = '\x7d' then pure taken.reverse
      else if isHex c then
        discard skipOn
        bracedHexDigits brace fuel (c :: taken)
      else failChar .hexInvalidDigit

/-- The character whose code point follows in hexadecimal, behind its letter. -/
def hexEscape (start : Place) (letter : Char) : Parser Atom := do
  if !(← skipOn) then failHere .escapeCutShort
  if ← sees '\x7b' then
    let brace ← place
    let digitsFrom := (← charSpan).stop
    discard skipOn
    let digits ← bracedHexDigits brace ((← get).rest.length + 1) []
    let digitsTo ← place
    discard skipOn
    if digits.isEmpty then failFrom brace .hexEmpty
    match charOfHex? digits with
    | some char => pure (.literal ⟨← spanFrom start, char, false⟩)
    | none => fail .hexInvalid ⟨digitsFrom, digitsTo⟩
  else
    let digitsFrom ← place
    let digits ← hexDigits (hexWidth letter) []
    match charOfHex? digits with
    | some char => pure (.literal ⟨← spanFrom start, char, letter == 'x'⟩)
    | none => failFrom digitsFrom .hexInvalid

/-- Splits a text at the first occurrence of a mark. -/
def splitAtMark? (mark : List Char) (before : List Char) : List Char → Option (String × String)
  | [] => none
  | c :: rest =>
    if mark.isPrefixOf (c :: rest) then
      some (String.ofList before.reverse, String.ofList ((c :: rest).drop mark.length))
    else splitAtMark? mark (c :: before) rest

/-- The property that the text in braces names. -/
def propertyOf (text : List Char) : Property :=
  match (splitAtMark? ['!', '='] [] text).or
      ((splitAtMark? [':'] [] text).or (splitAtMark? ['='] [] text)) with
  | some (name, value) => .valued name value
  | none => .named (String.ofList text)

/-- A property of characters, behind its letter. -/
def propertyEscape (start : Place) (negated : Bool) : Parser Atom := do
  if !(← skipOn) then failHere .escapeCutShort
  match ← peek with
  | some '\x7b' =>
    discard skipOn
    let name ← takeAll (· != '\x7d')
    if ← atEnd then failHere .escapeCutShort
    discard skip
    pure (.property (← spanFrom start) negated (propertyOf name))
  | some '\\' => failChar .propertyInvalid
  | some c =>
    discard skipOn
    pure (.property (← spanFrom start) negated (.named (String.singleton c)))
  | none => failHere .escapeCutShort

/-- Whether the character may stand in the name of a boundary. -/
def isBoundaryPart (c : Char) : Bool :=
  c.isAlpha || c == '-'

/-- The boundary with a name. -/
def boundaryOf? : String → Option Assertion
  | "start" => some .wordStart
  | "end" => some .wordEnd
  | "start-half" => some .wordStartHalf
  | "end-half" => some .wordEndHalf
  | _ => none

/-- The boundary that is named in braces, if a name follows; else nothing is passed over, since the
braces may count a repetition.
-/
def namedBoundary? (start : Place) : Parser (Option Assertion) := do
  let before ← get
  if !(← skipOn) then failFrom start .boundaryOrCountCutShort
  let nameFrom ← place
  if !(← peek).any isBoundaryPart then
    set before
    pure none
  else
    let name ← takeAll isBoundaryPart
    if !(← sees '\x7d') then failFrom before.place .boundaryUnclosed
    let nameTo ← place
    discard skip
    match boundaryOf? (String.ofList name) with
    | some kind => pure (some kind)
    | none => fail .boundaryUnrecognized ⟨nameFrom, nameTo⟩

/-- A boundary of words, behind its letter. -/
def boundaryEscape (start : Place) : Parser Atom := do
  let span ← spanFrom start
  if ← sees '\x7b' then
    match ← namedBoundary? start with
    | some kind => pure (.assertion (← spanFrom start) kind)
    | none => pure (.assertion span .boundary)
  else pure (.assertion span .boundary)

/-- What a letter behind a backslash stands for, if it needs nothing else. -/
def letterEscape? (span : Span) (c : Char) : Option Atom :=
  let char (c : Char) : Option Atom := some (.literal ⟨span, c, false⟩)
  let assertion (kind : Assertion) : Option Atom := some (.assertion span kind)
  let letterClass (kind : LetterClass) : Option Atom :=
    some (.letterClass span c.isUpper kind)
  match c with
  | 'a' => char '\x07'
  | 'f' => char '\x0c'
  | 't' => char '\t'
  | 'n' => char '\n'
  | 'r' => char '\r'
  | 'v' => char '\x0b'
  | 'A' => assertion .startText
  | 'z' => assertion .endText
  | 'B' => assertion .notBoundary
  | '<' => assertion .wordStart
  | '>' => assertion .wordEnd
  | 'd' | 'D' => letterClass .digit
  | 's' | 'S' => letterClass .space
  | 'w' | 'W' => letterClass .word
  | _ => if isEscapable c then char c else none

/-- An escape, from its backslash on. -/
def escape : Parser Atom := do
  let start ← place
  discard skip
  match ← peek with
  | none => failFrom start .escapeCutShort
  | some c =>
    if c.isDigit then fail .backreference ⟨start, (← charSpan).stop⟩
    else if c = 'x' ∨ c = 'u' ∨ c = 'U' then hexEscape start c
    else if c = 'p' ∨ c = 'P' then propertyEscape start (c == 'P')
    else
      discard skip
      let span ← spanFrom start
      if c = 'b' then boundaryEscape start
      else
        match letterEscape? span c with
        | some atom => pure atom
        | none => fail .escapeUnrecognized span

end Lexical.Pattern.Parser
