import Lexical.Pattern.Span

/-! Patterns as expressions, with the stretches of text that they were read from. -/

namespace Lexical.Pattern

/-- What can be switched on and off for a part of a pattern. -/
inductive Flag where
  | caseInsensitive
  | multiLine
  | dotMatchesNewLine
  | swapGreed
  | unicode
  | crlf
  | ignoreBlanks
deriving DecidableEq, Repr

/-- A flag in a list of flags, or the sign that those after it are switched off. -/
structure FlagItem where
  flag? : Option Flag
  span : Span
deriving DecidableEq, Repr

/-- What a list of flags says about a flag. -/
def flagState? (flag : Flag) (items : List FlagItem) (on : Bool) : Option Bool :=
  match items with
  | [] => none
  | item :: others =>
    match item.flag? with
    | none => flagState? flag others false
    | some other => if other = flag then some on else flagState? flag others on

/-- A character that stands for itself. One that is written as two hexadecimal digits stands for a
byte where characters are bytes.
-/
structure Literal where
  span : Span
  char : Char
  isByte : Bool
deriving DecidableEq, Repr

/-- The classes of characters that have a letter of their own. -/
inductive LetterClass where
  | digit
  | space
  | word
deriving DecidableEq, Repr

/-- The classes of ASCII characters that have a name. -/
inductive AsciiClass where
  | alnum
  | alpha
  | ascii
  | blank
  | cntrl
  | digit
  | graph
  | lower
  | print
  | punct
  | space
  | upper
  | word
  | xdigit
deriving DecidableEq, Repr

/-- A property of characters, by one name or by the names of a property and of its value. -/
inductive Property where
  | named (name : String)
  | valued (name value : String)
deriving DecidableEq, Repr

/-- What has to be so between two characters. -/
inductive Assertion where
  | startLine
  | endLine
  | startText
  | endText
  | boundary
  | notBoundary
  | wordStart
  | wordEnd
  | wordStartHalf
  | wordEndHalf
deriving DecidableEq, Repr

/-- The parts of a pattern that have no parts themselves. -/
inductive Atom where
  | literal (char : Literal)
  | dot (span : Span)
  | assertion (span : Span) (kind : Assertion)
  | property (span : Span) (negated : Bool) (property : Property)
  | letterClass (span : Span) (negated : Bool) (kind : LetterClass)
deriving DecidableEq, Repr

/-- Where the atom was read. -/
def Atom.span : Atom → Span
  | literal char => char.span
  | dot span => span
  | assertion span _ => span
  | property span _ _ => span
  | letterClass span _ _ => span

/-- How two classes are combined. -/
inductive ClassOperation where
  | intersection
  | difference
  | symmetricDifference
deriving DecidableEq, Repr

/-- A class of characters in brackets, or a part of one. -/
inductive ClassExpr where
  | empty (span : Span)
  | literal (char : Literal)
  | range (span : Span) (first last : Literal)
  | ascii (span : Span) (negated : Bool) (kind : AsciiClass)
  | property (span : Span) (negated : Bool) (property : Property)
  | letterClass (span : Span) (negated : Bool) (kind : LetterClass)
  | bracketed (span : Span) (negated : Bool) (content : ClassExpr)
  | union (span : Span) (items : List ClassExpr)
  | operation (span : Span) (kind : ClassOperation) (left right : ClassExpr)

/-- Where the class was read. -/
def ClassExpr.span : ClassExpr → Span
  | empty span => span
  | literal char => char.span
  | range span _ _ => span
  | ascii span _ _ => span
  | property span _ _ => span
  | letterClass span _ _ => span
  | bracketed span _ _ => span
  | union span _ => span
  | operation span _ _ _ => span

/-- A pattern, or a part of one. -/
inductive Expr where
  | empty (span : Span)
  | flags (span : Span) (items : List FlagItem)
  | atom (part : Atom)
  | bracketed (span : Span) (negated : Bool) (content : ClassExpr)
  | repetition (span : Span) (least : Nat) (most? : Option Nat) (greedy : Bool) (body : Expr)
  | group (span : Span) (captures : Bool) (flags : List FlagItem) (body : Expr)
  | alternation (span : Span) (branches : List Expr)
  | concat (span : Span) (parts : List Expr)

/-- Where the expression was read. -/
def Expr.span : Expr → Span
  | empty span => span
  | flags span _ => span
  | atom part => part.span
  | bracketed span _ _ => span
  | repetition span _ _ _ _ => span
  | group span _ _ _ => span
  | alternation span _ => span
  | concat span _ => span

/-- One expression after the other; a single one stands for itself. -/
def Expr.ofParts (span : Span) : List Expr → Expr
  | [] => .empty span
  | [part] => part
  | parts => .concat span parts

/-- The union of classes; a single one stands for itself. -/
def ClassExpr.ofItems (span : Span) : List ClassExpr → ClassExpr
  | [] => .empty span
  | [item] => item
  | items => .union span items

mutual

/-- Where a class goes below the given depth, of brackets, unions and operations inside others. -/
def ClassExpr.tooDeep? (limit : Nat) (depth : Nat) : ClassExpr → Option Span
  | .bracketed span _ content =>
    if limit ≤ depth then some span else content.tooDeep? limit (depth + 1)
  | .union span items =>
    if limit ≤ depth then some span else ClassExpr.anyTooDeep? limit (depth + 1) items
  | .operation span _ left right =>
    if limit ≤ depth then some span
    else (left.tooDeep? limit (depth + 1)).or (right.tooDeep? limit (depth + 1))
  | _ => none

/-- Where one of several classes goes below the given depth. -/
def ClassExpr.anyTooDeep? (limit : Nat) (depth : Nat) : List ClassExpr → Option Span
  | [] => none
  | item :: others => (item.tooDeep? limit depth).or (ClassExpr.anyTooDeep? limit depth others)

end

mutual

/-- Where an expression goes below the given depth, of expressions inside others. -/
def Expr.tooDeep? (limit : Nat) (depth : Nat) : Expr → Option Span
  | .bracketed span _ content =>
    if limit ≤ depth then some span else content.tooDeep? limit (depth + 1)
  | .repetition span _ _ _ body =>
    if limit ≤ depth then some span else body.tooDeep? limit (depth + 1)
  | .group span _ _ body =>
    if limit ≤ depth then some span else body.tooDeep? limit (depth + 1)
  | .alternation span branches =>
    if limit ≤ depth then some span else Expr.anyTooDeep? limit (depth + 1) branches
  | .concat span parts =>
    if limit ≤ depth then some span else Expr.anyTooDeep? limit (depth + 1) parts
  | _ => none

/-- Where one of several expressions goes below the given depth. -/
def Expr.anyTooDeep? (limit : Nat) (depth : Nat) : List Expr → Option Span
  | [] => none
  | part :: others => (part.tooDeep? limit depth).or (Expr.anyTooDeep? limit depth others)

end

end Lexical.Pattern
