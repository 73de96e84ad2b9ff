/-! JSON values and their shortest text: no blanks, members in their order, and in strings no more
escapes than the format asks for.
-/

namespace Lexical

/-- A JSON value without fractions or negative numbers. -/
inductive Json where
  | null
  | bool (value : Bool)
  | natural (value : Nat)
  | string (value : String)
  | list (items : List Json)
  | object (members : List (String × Json))

namespace Json

/-- How a character stands in a string. -/
def escape (c : Char) : List Char :=
  if c = '"' ∨ c = '\\' then ['\\', c]
  else if c = '\x08' then ['\\', 'b']
  else if c = '\x0c' then ['\\', 'f']
  else if c = '\n' then ['\\', 'n']
  else if c = '\r' then ['\\', 'r']
  else if c = '\t' then ['\\', 't']
  else if c < ' ' then
    ['\\', 'u', '0', '0', Nat.digitChar (c.toNat / 16), Nat.digitChar (c.toNat % 16)]
  else [c]

/-- A string with its quotes. -/
def renderString (value : String) : List Char :=
  '"' :: value.toList.flatMap escape ++ ['"']

mutual

/-- The text of a value. -/
def renderValue : Json → List Char
  | null => "null".toList
  | bool value => (if value then "true" else "false").toList
  | natural value => value.repr.toList
  | string value => renderString value
  | list items => '[' :: renderItems items ++ [']']
  | object members => '\x7b' :: renderMembers members ++ ['\x7d']

/-- The texts of the elements of a list, with commas between them. -/
def renderItems : List Json → List Char
  | [] => []
  | [item] => renderValue item
  | item :: others => renderValue item ++ ',' :: renderItems others

/-- The texts of the members of an object, with commas between them. -/
def renderMembers : List (String × Json) → List Char
  | [] => []
  | [(key, value)] => renderString key ++ ':' :: renderValue value
  | (key, value) :: others =>
    renderString key ++ ':' :: renderValue value ++ ',' :: renderMembers others

end

/-- The text of a value. -/
def render (value : Json) : String :=
  String.ofList (renderValue value)

/-- A value, or the word for none. -/
def optional (toJson : α → Json) : Option α → Json
  | some value => toJson value
  | none => null

end Json

end Lexical
