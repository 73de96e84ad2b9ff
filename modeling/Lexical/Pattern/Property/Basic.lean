import Lexical.Pattern.Expression
import Lexical.Pattern.Fault
import Lexical.Pattern.Property.Age
import Lexical.Pattern.Property.Binary
import Lexical.Pattern.Property.Category
import Lexical.Pattern.Property.Script
import Lexical.Pattern.Property.Segment

/-! The sets of characters that properties in patterns stand for. Names are compared without their
case, without blanks, underscores and hyphens, and without a leading `is`.
-/

namespace Lexical.Pattern.Property

/-- The characters of a name that matter. -/
def significant (name : List Char) : List Char :=
  (name.filter fun c => c.toNat < 0x80 && c != ' ' && c != '_' && c != '-').map Char.toLower

/-- A name as it is compared. -/
def normalize (name : String) : String :=
  match name.toList with
  | i :: s :: rest =>
    if i.toLower = 'i' ∧ s.toLower = 's' then
      match significant rest with
      | ['c'] => "isc"
      | rest => String.ofList rest
    else String.ofList (significant (i :: s :: rest))
  | short => String.ofList (significant short)

/-- The characters of a general category or of a union of such. -/
def category? (name : String) : Option CharSet :=
  if name = "ascii" then some ⟨[(0, 0x7f)]⟩
  else
    match categoryUnions.find? (·.1.contains name) with
    | some (_, parts) =>
      some (CharSet.ofRanges ((parts.filterMap (find? categories)).flatMap CharSet.ranges))
    | none => find? categories name

/-- The names of general categories and scripts that no character has. -/
def vacant : List String :=
  ["cs", "surrogate", "zzzz", "unknown", "hrkt", "katakanaorhiragana"]

/-- The characters that are used in a script. -/
def sharedScript? (name : String) : Option CharSet :=
  (find? sharedScripts name).or (find? scripts name)

/-- The characters of a version, which are those that it and the versions before it have added. -/
def age? (name : String) : Option CharSet :=
  (ages.findIdx? (·.names.contains name)).map fun index =>
    CharSet.ofRanges ((ages.take (index + 1)).flatMap fun table => (decode table.rows).ranges)

/-- The properties that can be asked for by a value, by their names, with the characters of a value.
-/
def byValue : List (List String × (String → Option CharSet)) := [
  (["gc", "generalcategory"], category?),
  (["sc", "script"], find? scripts),
  (["scx", "scriptextensions"], sharedScript?),
  (["age"], age?),
  (["gcb", "graphemeclusterbreak"], find? graphemeBreaks),
  (["wb", "wordbreak"], find? wordBreaks),
  (["sb", "sentencebreak"], find? sentenceBreaks)
]

/-- The names of other properties that have values. They cannot be asked for. -/
def otherProperties : List String :=
  ["bc", "bidiclass", "bidimirroringglyph", "bidipairedbracket", "bidipairedbrackettype",
    "blk", "block", "bmg", "bpb", "bpt", "canonicalcombiningclass", "casefolding", "ccc", "cf",
    "decompositionmapping", "decompositiontype", "dm", "dt", "ea", "eastasianwidth",
    "hangulsyllabletype", "hst", "indicpositionalcategory", "indicsyllabiccategory", "inpc",
    "insc", "isc", "isocomment", "jamoshortname", "jg", "joininggroup", "joiningtype", "jsn", "jt",
    "lb", "lc", "linebreak", "lowercasemapping", "na", "na1", "name", "namealias", "nt",
    "numerictype", "numericvalue", "nv", "scf", "sfc", "simplecasefolding",
    "simplelowercasemapping", "simpletitlecasemapping", "simpleuppercasemapping", "slc", "stc",
    "suc", "tc", "titlecasemapping", "uc", "unicode1name", "uppercasemapping",
    "verticalorientation", "vo"]

/-- The names of general categories that are also short names of other properties. -/
def categoriesFirst : List String :=
  ["cf", "sc", "lc"]

/-- The characters that a property stands for. A name alone is that of a property to have, of a
general category or of a script.
-/
def characters : Property → Except Reason CharSet
  | .named name =>
    let name := normalize name
    let binary? := if categoriesFirst.contains name then none else find? binaries name
    match binary?.or ((category? name).or (find? scripts name)) with
    | some set => .ok set
    | none => .error (if vacant.contains name then .propertyValueNotFound else .propertyNotFound)
  | .valued name value =>
    let name := normalize name
    match byValue.find? (·.1.contains name) with
    | some (_, valued?) =>
      match valued? (normalize value) with
      | some set => .ok set
      | none => .error .propertyValueNotFound
    | none =>
      if otherProperties.contains name ∨ (binaries.any (·.names.contains name)) then
        .error .propertyValueNotFound
      else .error .propertyNotFound

/-- The decimal digits of all scripts. -/
def digits : CharSet :=
  (find? categories "nd").getD .empty

/-- The characters of words. -/
def wordChars : CharSet :=
  decode wordRows

end Lexical.Pattern.Property
