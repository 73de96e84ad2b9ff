import Lexical.Json.Number

/-! Reading data of a known shape from JSON text: single values, lists, and records whose fields
come as the members of an object, in any order, or as a list in their own order. Members that are
no fields are passed over.
-/

namespace Lexical.Json.Reader

/-- Fails because the value that comes next is not what was expected. Values that are no lists or
objects are read to the end first.
-/
def failType (expected : String) : Reader α := do
  let wrong (found : Found) : Reader α := failHere (.wrongType found expected)
  match ← peek with
  | some 'n' => word "null".toList *> wrong .null
  | some 't' => word "true".toList *> wrong (.boolean true)
  | some 'f' => word "false".toList *> wrong (.boolean false)
  | some '"' => skip *> stringBody >>= fun value => wrong (.string value)
  | some '[' => wrong .sequence
  | some '{' => wrong .map
  | some '-' => skip *> number true >>= fun value => wrong value.found
  | some c =>
    if c.isDigit then number false >>= fun value => wrong value.found
    else failNext .expectedValue
  | none => failNext .expectedValue

/-- Reads a truth value. -/
def bool : Reader Bool := do
  match ← peekIn .value with
  | 't' => word "true".toList *> pure true
  | 'f' => word "false".toList *> pure false
  | _ => failType "a boolean"

/-- Reads a string. -/
def string : Reader String := do
  match ← peekIn .value with
  | '"' => skip *> stringBody
  | _ => failType "a string"

/-- Reads a string of one character. -/
def char : Reader Char := do
  match ← peekIn .value with
  | '"' =>
    skip
    let value ← stringBody
    match value.toList with
    | [c] => pure c
    | _ => failHere (.wrongValue (.string value) "a character")
  | _ => failType "a character"

/-- The number, if it is a whole number that is not negative. -/
def asNatural : Number → Reader Nat
  | .natural value => pure value
  | .negative magnitude => failHere (.wrongValue (.integer (-magnitude)) "usize")
  | .float value => failHere (.wrongType (.float value) "usize")

/-- Reads a whole number below 2⁶⁴. -/
def natural : Reader Nat := do
  let c ← peekIn .value
  if c = '-' then skip *> number true >>= asNatural
  else if c.isDigit then number false >>= asNatural
  else failType "usize"

/-- Reads a value, or the word for none. -/
def optional (reader : Reader α) : Reader (Option α) := do
  skipBlanks
  match ← peek with
  | some 'n' => word "null".toList *> pure none
  | _ => some <$> reader

/-- Whether a list goes on, behind its opening bracket or behind an element. -/
def hasElement (first : Bool) : Reader Bool := do
  let c ← peekIn .list
  if c = ']' then pure false
  else if first then pure true
  else if c = ',' then
    skip
    if (← peekIn .value) = ']' then failNext .trailingComma else pure true
  else failNext .expectedCommaOrBracket

/-- Passes over the end of a list, where no element is expected. -/
def endList : Reader Unit := do
  match ← peekIn .list with
  | ']' => skip
  | ',' =>
    skip
    skipBlanks
    if (← peek) = some ']' then failNext .trailingComma else failNext .trailingCharacters
  | _ => failNext .trailingCharacters

/-- Reads the elements of a list, at most so many. -/
def elements (element : Reader α) : Nat → Bool → List α → Reader (List α)
  | 0, _, found => pure found.reverse
  | fuel + 1, first, found => do
    if ← hasElement first then
      let item ← element
      elements element fuel false (item :: found)
    else pure found.reverse

/-- Reads a list. -/
def list (element : Reader α) : Reader (List α) := do
  match ← peekIn .value with
  | '[' =>
    skip
    let found ← elements element ((← get).length + 1) true []
    endList
    pure found
  | _ => failType "a sequence"

/-- The bracket that opened what is being passed over. -/
inductive Bracket where
  | list
  | object
deriving DecidableEq

/-- What a bracket opens. -/
def Bracket.part : Bracket → Part
  | list => .list
  | object => .object

/-- The character that closes what a bracket opened. -/
def Bracket.closing : Bracket → Char
  | list => ']'
  | object => '\x7d'

/-- What is wrong where a bracket is neither closed nor followed up by a comma. -/
def Bracket.unclosed : Bracket → Cause
  | list => .expectedCommaOrBracket
  | object => .expectedCommaOrBrace

/-- Passes over the colon between a key and its value. -/
def colon : Reader Unit := do
  if (← peekIn .object) = ':' then skip else failNext .expectedColon

/-- Passes over a key and its colon, where the brackets are those of an object. -/
def skipKey : Bracket → Reader Unit
  | .list => pure ()
  | .object => do
    if (← peekIn .object) = '"' then skip else failNext .keyNotString
    (skipStringBody : Reader Unit)
    colon

/-- Passes over closing brackets, up to where the next value has to follow. A comma may come first
where a value came before. Tells which brackets are still open, and none when all is passed over.
-/
def skipClosings : List Bracket → Bool → Reader (List Bracket)
  | [], _ => pure []
  | inner :: outer, behindValue => do
    let c ← peekIn inner.part
    if behindValue ∧ c = ',' then
      skip
      skipKey inner
      pure (inner :: outer)
    else if c = inner.closing then
      skip
      skipClosings outer true
    else if behindValue then failNext inner.unclosed
    else
      skipKey inner
      pure (inner :: outer)

/-- Passes over one value inside the open brackets; of a list or an object only over the opening. -/
def skipOpening (outer : List Bracket) : Reader (List Bracket) := do
  let c ← peekIn .value
  match c with
  | 'n' => word "null".toList *> skipClosings outer true
  | 't' => word "true".toList *> skipClosings outer true
  | 'f' => word "false".toList *> skipClosings outer true
  | '"' => skip *> (skipStringBody : Reader Unit) *> skipClosings outer true
  | '[' => skip *> skipClosings (.list :: outer) false
  | '{' => skip *> skipClosings (.object :: outer) false
  | '-' => skip *> skipNumber *> skipClosings outer true
  | _ =>
    if c.isDigit then skipNumber *> skipClosings outer true else failNext .expectedValue

/-- Passes over values until no bracket is open, at most so many values. -/
def skipValues : Nat → List Bracket → Reader Unit
  | 0, _ => pure ()
  | fuel + 1, outer => do
    match ← skipOpening outer with
    | [] => pure ()
    | outer => skipValues fuel outer

/-- Passes over a value of any shape. -/
def skipValue : Reader Unit := do
  skipValues ((← get).length + 1) []

/-- Whether an object goes on, behind its opening brace or behind a member. -/
def hasMember (first : Bool) : Reader Bool := do
  let c ← peekIn .object
  if c = '\x7d' then pure false
  else if first then
    if c = '"' then pure true else failNext .keyNotString
  else if c = ',' then
    skip
    match ← peekIn .value with
    | '"' => pure true
    | '\x7d' => failNext .trailingComma
    | _ => failNext .keyNotString
  else failNext .expectedCommaOrBrace

/-- Passes over the end of an object, where no member is expected. -/
def endObject : Reader Unit := do
  match ← peekIn .object with
  | '\x7d' => skip
  | ',' => failNext .trailingComma
  | _ => failNext .trailingCharacters

/-- Fails behind the end of an object, if that comes next. -/
def failBehindObject (cause : Cause) : Reader α := do
  skipBlanks
  match ← get with
  | '\x7d' :: rest => failAt ⟨rest, 0⟩ cause
  | _ => failHere cause

/-- Fails behind the end of a list, if that comes next, or behind the comma that comes next. -/
def failBehindList (cause : Cause) : Reader α := do
  skipBlanks
  match ← get with
  | ']' :: rest => failAt ⟨rest, 0⟩ cause
  | ',' :: rest => failAt ⟨rest.dropWhile isBlank, 0⟩ cause
  | _ => failHere cause

/-- A field of a record that is being read: its name, whether it has been read, how it is read, and
whether it may not be left out.
-/
structure Field (σ : Type) where
  name : String
  isSet : σ → Bool
  read : σ → Reader σ
  required : Bool := false

/-- A shape of records: what it is called, and its fields in order. -/
structure Shape (σ : Type) where
  name : String
  fields : List (Field σ)

/-- What is expected of a value that should be a record. -/
def Shape.expected (shape : Shape σ) : String :=
  "struct " ++ shape.name

/-- What is expected of a list that stands for a record and is too short. -/
def Shape.expectedLength (shape : Shape σ) : String :=
  shape.expected ++ " with " ++ shape.fields.length.repr ++ " elements"

/-- Reads the members of an object into fields, at most so many. -/
def members (shape : Shape σ) : Nat → Bool → σ → Reader σ
  | 0, _, record => pure record
  | fuel + 1, first, record => do
    if ← hasMember first then
      skip
      let key ← stringBody
      match shape.fields.find? (·.name == key) with
      | none =>
        colon
        skipValue
        members shape fuel false record
      | some field =>
        if field.isSet record then failBehindObject (.duplicateField field.name)
        else
          colon
          let record ← field.read record
          members shape fuel false record
    else pure record

/-- Reads the elements of a list into the fields in order, as far as it goes. -/
def columns (shape : Shape σ) : List (Field σ) → Nat → σ → Reader σ
  | [], _, record => pure record
  | field :: others, index, record => do
    if ← hasElement (index == 0) then
      let record ← field.read record
      columns shape others (index + 1) record
    else if field.required then failBehindList (.wrongLength index shape.expectedLength)
    else columns shape others (index + 1) record

/-- Reads a record, beginning with one that has no field set. -/
def record (shape : Shape σ) (start : σ) : Reader σ := do
  match ← peekIn .value with
  | '{' =>
    skip
    let found ← members shape ((← get).length + 1) true start
    match shape.fields.find? fun field => field.required && !field.isSet found with
    | some field => failBehindObject (.missingField field.name)
    | none =>
      endObject
      pure found
  | '[' =>
    skip
    let found ← columns shape shape.fields 0 start
    endList
    pure found
  | _ => failType shape.expected

/-- Reads a whole text that holds one value and nothing else. -/
def whole (reader : Reader α) (text : String) : Except Fault α := do
  let (value, _) ← (do
    let value ← reader
    skipBlanks
    if (← peek).isSome then failNext .trailingCharacters
    pure value : Reader α).run text.toList
  pure value

end Lexical.Json.Reader
