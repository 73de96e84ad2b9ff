import Lexical.Pattern.Expression
import Lexical.Pattern.Fault
import Lexical.Pattern.Meaning
import Lexical.Pattern.Property.Basic
import Lexical.Pattern.Property.Folding
import Lexical.Text.Blank

/-! The meaning of expressions: flags say what characters, dots, assertions and repetitions stand
for, from where they are set up to the end of the group around them.
-/

namespace Lexical.Pattern

/-- The flags that hold at a place. -/
structure Mode where
  caseInsensitive : Bool := false
  multiLine : Bool := false
  dotMatchesNewLine : Bool := false
  swapGreed : Bool := false
  unicode : Bool := true
  crlf : Bool := false
deriving DecidableEq, Repr

namespace Mode

/-- The flags after a list of flags; those it does not mention stay as they are. -/
def update (mode : Mode) (items : List FlagItem) : Mode where
  caseInsensitive := (flagState? .caseInsensitive items true).getD mode.caseInsensitive
  multiLine := (flagState? .multiLine items true).getD mode.multiLine
  dotMatchesNewLine := (flagState? .dotMatchesNewLine items true).getD mode.dotMatchesNewLine
  swapGreed := (flagState? .swapGreed items true).getD mode.swapGreed
  unicode := (flagState? .unicode items true).getD mode.unicode
  crlf := (flagState? .crlf items true).getD mode.crlf

/-- Refuses the pattern for a stretch of it. -/
def refuse (reason : Reason) (span : Span) : Except Fault α :=
  .error (.refused reason span none)

/-- The characters of a named class. -/
def asciiSet : AsciiClass → CharSet
  | .alnum => ⟨[(0x30, 0x39), (0x41, 0x5a), (0x61, 0x7a)]⟩
  | .alpha => ⟨[(0x41, 0x5a), (0x61, 0x7a)]⟩
  | .ascii => ⟨[(0, 0x7f)]⟩
  | .blank => ⟨[(0x9, 0x9), (0x20, 0x20)]⟩
  | .cntrl => ⟨[(0, 0x1f), (0x7f, 0x7f)]⟩
  | .digit => ⟨[(0x30, 0x39)]⟩
  | .graph => ⟨[(0x21, 0x7e)]⟩
  | .lower => ⟨[(0x61, 0x7a)]⟩
  | .print => ⟨[(0x20, 0x7e)]⟩
  | .punct => ⟨[(0x21, 0x2f), (0x3a, 0x40), (0x5b, 0x60), (0x7b, 0x7e)]⟩
  | .space => ⟨[(0x9, 0xd), (0x20, 0x20)]⟩
  | .upper => ⟨[(0x41, 0x5a)]⟩
  | .word => ⟨[(0x30, 0x39), (0x41, 0x5a), (0x5f, 0x5f), (0x61, 0x7a)]⟩
  | .xdigit => ⟨[(0x30, 0x39), (0x41, 0x46), (0x61, 0x66)]⟩

/-- The characters of words, as far as this mode knows characters. -/
def word (mode : Mode) : CharSet :=
  if mode.unicode then Property.wordChars else asciiSet .word

/-- The set with both cases of its characters, as far as this mode knows characters. -/
def fold (mode : Mode) (set : CharSet) : CharSet :=
  if !mode.caseInsensitive then set
  else if mode.unicode then Property.fold set
  else Property.foldAscii set

/-- The set, or what it does not hold. Without Unicode that would hold parts of characters. -/
def negate (mode : Mode) (span : Span) (negated : Bool) (set : CharSet) : Except Fault CharSet :=
  if !negated then .ok set
  else if mode.unicode then .ok set.complement
  else refuse .invalidUtf8 span

/-- The characters that have a property. Without Unicode properties have no meaning. -/
def propertySet (mode : Mode) (span : Span) (negated : Bool) (property : Property)
    : Except Fault CharSet :=
  if !mode.unicode then refuse .unicodeNotAllowed span
  else
    match Property.characters property with
    | .ok set => mode.negate span negated (mode.fold set)
    | .error reason => refuse reason span

/-- The characters of a class with a letter of its own, which case does not change. -/
def letterSet (mode : Mode) (span : Span) (negated : Bool) (kind : LetterClass)
    : Except Fault CharSet :=
  mode.negate span negated <|
    match kind with
    | .digit => if mode.unicode then Property.digits else asciiSet .digit
    | .space => if mode.unicode then Lexical.Text.blanks else asciiSet .space
    | .word => mode.word

/-- The character of a literal. Without Unicode, two hexadecimal digits stand for a byte, which
has to be a character by itself.
-/
def literalChar (mode : Mode) (literal : Literal) : Except Fault Char :=
  if !mode.unicode && literal.isByte && 0x80 ≤ literal.char.toNat then
    refuse .invalidUtf8 literal.span
  else .ok literal.char

/-- The character of a literal in brackets, which without Unicode has to be a byte. -/
def bracketChar (mode : Mode) (literal : Literal) : Except Fault Char := do
  let c ← mode.literalChar literal
  if !mode.unicode && 0x80 ≤ c.toNat then refuse .unicodeNotAllowed literal.span else .ok c

/-- Two sets combined. -/
def combine : ClassOperation → CharSet → CharSet → CharSet
  | .intersection => CharSet.intersection
  | .difference => CharSet.difference
  | .symmetricDifference => CharSet.symmetricDifference

mutual

/-- The characters of a class. -/
def classSet (mode : Mode) : ClassExpr → Except Fault CharSet
  | .empty _ => .ok .empty
  | .literal char => CharSet.singleton <$> mode.bracketChar char
  | .range _ first last => do
    let low ← mode.bracketChar first
    let high ← mode.bracketChar last
    pure ⟨[(low.toNat, high.toNat)]⟩
  | .ascii span negated kind => mode.negate span negated (mode.fold (asciiSet kind))
  | .property span negated property => mode.propertySet span negated property
  | .letterClass span negated kind => mode.letterSet span negated kind
  | .bracketed span negated content => do
    mode.negate span negated (mode.fold (← mode.classSet content))
  | .union _ items => do
    pure (CharSet.ofRanges (← mode.classRanges items))
  | .operation _ kind left right => do
    let left ← mode.classSet left
    let right ← mode.classSet right
    pure (combine kind (mode.fold left) (mode.fold right))

/-- The ranges of several classes. -/
def classRanges (mode : Mode) : List ClassExpr → Except Fault (List (Nat × Nat))
  | [] => .ok []
  | item :: others => do
    let set ← mode.classSet item
    let rest ← mode.classRanges others
    pure (set.ranges ++ rest)

end

/-- The characters that a dot stands for. -/
def dotSet (mode : Mode) (span : Span) : Except Fault CharSet :=
  if !mode.unicode then refuse .invalidUtf8 span
  else if mode.dotMatchesNewLine then .ok CharSet.empty.complement
  else if mode.crlf then .ok (CharSet.ofList ['\n', '\r']).complement
  else .ok (CharSet.singleton '\n').complement

/-- The condition that an assertion stands for. -/
def lookOf (mode : Mode) : Assertion → Look
  | .startLine =>
    if !mode.multiLine then .startText else if mode.crlf then .startLineCrlf else .startLine
  | .endLine => if !mode.multiLine then .endText else if mode.crlf then .endLineCrlf else .endLine
  | .startText => .startText
  | .endText => .endText
  | .boundary => .boundary mode.word
  | .notBoundary => .notBoundary mode.word
  | .wordStart => .wordStart mode.word
  | .wordEnd => .wordEnd mode.word
  | .wordStartHalf => .wordStartHalf mode.word
  | .wordEndHalf => .wordEndHalf mode.word

/-- What an atom means. -/
def atomMeaning (mode : Mode) : Atom → Except Fault Meaning
  | .literal char => do
    pure (.chars (mode.fold (CharSet.singleton (← mode.literalChar char))))
  | .dot span => Meaning.chars <$> mode.dotSet span
  | .assertion _ kind => .ok (.look (mode.lookOf kind))
  | .property span negated property => Meaning.chars <$> mode.propertySet span negated property
  | .letterClass span negated kind => Meaning.chars <$> mode.letterSet span negated kind

end Mode

mutual

/-- What an expression means, and the flags that hold behind it. -/
def Expr.meaning (mode : Mode) : Expr → Except Fault (Meaning × Mode)
  | .empty _ => .ok (.empty, mode)
  | .flags _ items => .ok (.empty, mode.update items)
  | .atom part => do
    pure (← mode.atomMeaning part, mode)
  | .bracketed span negated content => do
    pure (.chars (← mode.negate span negated (mode.fold (← mode.classSet content))), mode)
  | .repetition _ least most? greedy body => do
    let (body, _) ← body.meaning mode
    pure (.repeated least most? (greedy != mode.swapGreed) body, mode)
  | .group _ captures items body => do
    let (body, _) ← body.meaning (mode.update items)
    pure (if captures then .captured body else body, mode)
  | .alternation _ branches => do
    let (branches, mode) ← Expr.branchMeanings mode branches
    pure (Meaning.choice branches, mode)
  | .concat _ parts => Expr.partsMeaning mode parts

/-- What expressions one after the other mean. -/
def Expr.partsMeaning (mode : Mode) : List Expr → Except Fault (Meaning × Mode)
  | [] => .ok (.empty, mode)
  | part :: others => do
    let (first, mode) ← part.meaning mode
    let (rest, mode) ← Expr.partsMeaning mode others
    pure (.seq first rest, mode)

/-- What each of several alternatives means. Flags that are set in one hold in those behind it
too.
-/
def Expr.branchMeanings (mode : Mode) : List Expr → Except Fault (List Meaning × Mode)
  | [] => .ok ([], mode)
  | branch :: others => do
    let (first, mode) ← branch.meaning mode
    let (rest, mode) ← Expr.branchMeanings mode others
    pure (first :: rest, mode)

end

end Lexical.Pattern
