import Lexical.Error

/-! Streams of tokens, for parsers. Tokens are taken from the front, with or without an
expectation, and further tokens can be spliced in among those that are left.
-/

namespace Lexical

/-- The tokens that are left, in order. -/
structure TokenStream where
  remaining : List Token

namespace TokenStream

/-- The token that many places after the next one. -/
def peek? (stream : TokenStream) (offset : Nat) : Option Token :=
  stream.remaining[offset]?

/-- Takes the next token, if there is one. -/
def next (stream : TokenStream) : Option Token × TokenStream :=
  (stream.remaining.head?, ⟨stream.remaining.tail⟩)

/-- Whether no token is left. -/
def isAtEnd (stream : TokenStream) : Bool :=
  stream.remaining.isEmpty

/-- How many tokens are left. -/
def length (stream : TokenStream) : Nat :=
  stream.remaining.length

/-- Whether the next token is there and of the kind. -/
def nextIs (stream : TokenStream) (kind : Kind) : Bool :=
  (stream.peek? 0).any (·.isKind kind)

/-- Whether the next token is there and of one of the kinds. -/
def nextIsAny (stream : TokenStream) (kinds : List Kind) : Bool :=
  (stream.peek? 0).any (·.isAnyKind kinds)

/-- Whether the next token is there, of the kind, and holds the value. -/
def nextHolds (stream : TokenStream) (kind : Kind) (value : Value) : Bool :=
  (stream.peek? 0).any fun token => token.isKind kind && token.value == value

/-- An error at the origin of a token, as far as the token has one. -/
def errorAt (token : Token) (cause : Error.Cause) : Error :=
  ⟨cause, token.origin?⟩

/-- Takes the next token whatever it is. The kind only says what was wanted at the end. -/
def expectToken (stream : TokenStream) (expected : Kind) : Except Error Token × TokenStream :=
  match stream.next with
  | (some token, rest) => (.ok token, rest)
  | (none, rest) => (.error { cause := .unexpectedEnd expected }, rest)

/-- The token, if it is of the kind. -/
def checkKind (expected : Kind) (token : Token) : Except Error Token :=
  if token.isKind expected then .ok token
  else .error (errorAt token (.unexpectedToken expected token.kind token.value))

/-- The token, if it holds the value. -/
def checkValue (expected : Kind) (value : Value) (token : Token) : Except Error Token :=
  if token.value == value then .ok token
  else .error (errorAt token (.unexpectedValue expected value token.kind token.value))

/-- Takes the next token, which should be of the kind; it is taken also if it is not. -/
def expectKind (stream : TokenStream) (expected : Kind) : Except Error Token × TokenStream :=
  let (result, rest) := stream.expectToken expected
  (result >>= checkKind expected, rest)

/-- Takes the next token, which should be of the kind and hold the value. -/
def expectValue (stream : TokenStream) (expected : Kind) (value : Value)
    : Except Error Token × TokenStream :=
  let (result, rest) := stream.expectKind expected
  (result >>= checkValue expected value, rest)

/-- Puts tokens before the token at an index of those that are left, or behind the last one. A
greater index breaks the contract and changes nothing.
-/
def spliceAt (stream : TokenStream) (index : Nat) (tokens : List Token)
    : Except Breach TokenStream :=
  if index ≤ stream.length then
    .ok ⟨stream.remaining.take index ++ tokens ++ stream.remaining.drop index⟩
  else .error (.splicePastEnd index stream.length)

/-- Puts tokens before all that are left. -/
def spliceFront (stream : TokenStream) (tokens : List Token) : TokenStream :=
  ⟨tokens ++ stream.remaining⟩

end TokenStream

end Lexical
