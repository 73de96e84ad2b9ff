import Lexical.Json.Fault

/-! Reading JSON text from the left: blanks, words, strings and numbers. A reader fails at the first
thing that is out of place.
-/

namespace Lexical.Json

/-- A reader takes what it understands off the front of a text. -/
abbrev Reader := StateT (List Char) (Except Fault)

namespace Reader

/-- Fails at a mark. -/
def failAt (mark : Mark) (cause : Cause) : Reader α :=
  throw ⟨cause, mark⟩

/-- Fails before the next character. -/
def failHere (cause : Cause) : Reader α := do
  failAt ⟨← get, 0⟩ cause

/-- Fails one byte further on, where the next character is to blame. -/
def failNext (cause : Cause) : Reader α := do
  failAt ⟨← get, 1⟩ cause

/-- Whether the character may stand between the parts of a text. -/
def isBlank (c : Char) : Bool :=
  c == ' ' || c == '\n' || c == '\t' || c == '\r'

/-- Passes over blanks. -/
def skipBlanks : Reader Unit :=
  modify (List.dropWhile isBlank)

/-- The next character, which stays. -/
def peek : Reader (Option Char) :=
  List.head? <$> get

/-- Passes over one character. -/
def skip : Reader Unit :=
  modify List.tail

/-- The next character behind blanks, which stays; a text that ends there is cut short. -/
def peekIn (part : Part) : Reader Char := do
  skipBlanks
  match ← peek with
  | some c => pure c
  | none => failHere (.cutShort part)

/-- Passes over the given letters. -/
def word : List Char → Reader Unit
  | [] => pure ()
  | letter :: others => do
    match ← peek with
    | none => failHere (.cutShort .value)
    | some c => if c = letter then skip *> word others else failNext .expectedWord

/-- The value of a hexadecimal digit of either case. -/
def hexDigit? (c : Char) : Option Nat :=
  if '0' ≤ c ∧ c ≤ '9' then some (c.toNat - '0'.toNat)
  else if 'a' ≤ c ∧ c ≤ 'f' then some (c.toNat - 'a'.toNat + 10)
  else if 'A' ≤ c ∧ c ≤ 'F' then some (c.toNat - 'A'.toNat + 10)
  else none

/-- The value of four hexadecimal digits at the start of a text. -/
def hexUnit (text : List Char) : Except Fault Nat :=
  match text with
  | a :: b :: c :: d :: _ =>
    match hexDigit? a, hexDigit? b, hexDigit? c, hexDigit? d with
    | some a, some b, some c, some d => .ok (16 * (16 * (16 * a + b) + c) + d)
    | _, _, _, _ => .error ⟨.invalidEscape, text, 4⟩
  | _ =>
    if byteLength text < 4 then .error ⟨.cutShort .string, [], 0⟩
    else .error ⟨.invalidEscape, text, 4⟩

/-- What a single letter behind a backslash stands for. -/
def letterEscape? : Char → Option Char
  | '"' => some '"'
  | '\\' => some '\\'
  | '/' => some '/'
  | 'b' => some '\x08'
  | 'f' => some '\x0c'
  | 'n' => some '\n'
  | 'r' => some '\r'
  | 't' => some '\t'
  | _ => none

/-- Whether the unit is the first half of a surrogate pair. -/
def isHighSurrogate (unit : Nat) : Bool :=
  0xD800 ≤ unit && unit ≤ 0xDBFF

/-- Whether the unit is the second half of a surrogate pair. -/
def isLowSurrogate (unit : Nat) : Bool :=
  0xDC00 ≤ unit && unit ≤ 0xDFFF

/-- The second half of a surrogate pair, which has to follow the first half at once. -/
def secondHalf (text : List Char) : Except Fault Nat :=
  match text with
  | '\\' :: 'u' :: hex => do
    let unit ← hexUnit hex
    if isLowSurrogate unit then pure unit else .error ⟨.loneSurrogate, hex.drop 4, 0⟩
  | [] | ['\\'] => .error ⟨.cutShort .string, [], 0⟩
  | '\\' :: rest => .error ⟨.cutPair, rest, 1⟩
  | _ => .error ⟨.cutPair, text, 1⟩

/-- Reads the characters of a string up to the closing quote. Those already read come with it, the
latest first.
-/
def stringOnto (soFar : List Char) (text : List Char) : Except Fault (String × List Char) :=
  match text with
  | [] => .error ⟨.cutShort .string, [], 0⟩
  | '"' :: rest => .ok (String.ofList soFar.reverse, rest)
  | ['\\'] => .error ⟨.cutShort .string, [], 0⟩
  | '\\' :: 'u' :: hex =>
    match hexUnit hex with
    | .error fault => .error fault
    | .ok unit =>
      if isLowSurrogate unit then .error ⟨.loneSurrogate, hex.drop 4, 0⟩
      else if isHighSurrogate unit then
        match secondHalf (hex.drop 4) with
        | .error fault => .error fault
        | .ok low =>
          let code := 0x10000 + 0x400 * (unit - 0xD800) + (low - 0xDC00)
          stringOnto (Char.ofNat code :: soFar) (hex.drop 10)
      else stringOnto (Char.ofNat unit :: soFar) (hex.drop 4)
  | '\\' :: letter :: rest =>
    match letterEscape? letter with
    | some meant => stringOnto (meant :: soFar) rest
    | none => .error ⟨.invalidEscape, letter :: rest, 1⟩
  | c :: rest =>
    if c < ' ' then .error ⟨.controlCharacter, text, 1⟩
    else stringOnto (c :: soFar) rest
termination_by text.length
decreasing_by all_goals simp only [List.length_cons, List.length_drop]; omega

/-- Reads the rest of a string behind its opening quote. -/
def stringBody : Reader String := fun text =>
  stringOnto [] text

/-- Passes over the rest of a string whose content does not matter. -/
def skipStringBody (text : List Char) : Except Fault (Unit × List Char) :=
  match text with
  | [] => .error ⟨.cutShort .string, [], 0⟩
  | '"' :: rest => .ok ((), rest)
  | ['\\'] => .error ⟨.cutShort .string, [], 0⟩
  | '\\' :: 'u' :: hex =>
    match hexUnit hex with
    | .error fault => .error fault
    | .ok _ => skipStringBody (hex.drop 4)
  | '\\' :: letter :: rest =>
    if (letterEscape? letter).isSome then skipStringBody rest
    else .error ⟨.invalidEscape, letter :: rest, 1⟩
  | c :: rest =>
    if c < ' ' then .error ⟨.controlCharacter, text, 0⟩ else skipStringBody rest
termination_by text.length
decreasing_by all_goals simp only [List.length_cons, List.length_drop]; omega

end Reader

end Lexical.Json
