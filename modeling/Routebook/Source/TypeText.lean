import Routebook.Schema.Convention
import Routebook.Token

namespace Routebook

/-!
# Types and hints in a source

Models and interfaces write the type of a property in the same way, and both may refine a
property by tokens in the comment above it.  This module reads a written type and the tokens
of a comment; it does not know where in a source they stand.
-/

/-! ## Comments -/

/-- A trimmed line that holds a comment or a part of one. -/
def isComment (line : List Char) : Bool :=
  Text.startsWith ['/', '/'] line || Text.startsWith ['/', '*'] line || Text.startsWith ['*'] line

/-- What the tokens of a comment say about the property below it.  An empty text and an empty
list say nothing. -/
structure Hint where
  choices : List String
  sample : List Char
  format : List Char
  deriving DecidableEq, Repr

namespace Hint

def none : Hint :=
  ⟨[], [], []⟩

def ofComment (comment : List Char) : Hint :=
  { choices := Token.listValue "enum" comment
    sample := Token.value "example" comment
    format := Token.value "format" comment }

end Hint

/-! ## Written types -/

/-- A written type without the members of a union that stand for a missing value, and whether
there were any.  Of several members that remain the first one counts. -/
def withoutNull (type : List Char) : List Char × Bool :=
  if type.contains '|' then
    let members := (Text.piecesAt '|' type).map Text.trim
    let isMissing (part : List Char) : Bool :=
      part == "null".toList || part == "undefined".toList
    let kept := members.filter fun part => !isMissing part && !part.isEmpty
    (kept.head?.getD "any".toList, members.any isMissing)
  else (Text.trim type, false)

/-- The type of the items of a written list type, and whether it is one. -/
def itemType (type : List Char) : List Char × Bool :=
  let type := Text.trim type
  match Text.stripEnd? ['[', ']'] type with
  | some inner => (Text.trim inner, true)
  | none =>
    match (Text.stripStart? "Array<".toList type).bind (Text.stripEnd? ['>']) with
    | some inner => (Text.trim inner, true)
    | none => (type, false)

/-- A property of a written type that is neither a union nor a list.  A type with parameters
and an object in place have no schema of their own. -/
def propertyOf (type : List Char) : Property :=
  match builtinType? type with
  | some builtin => { Property.ofPrimitive builtin.name .null with format := builtin.format }
  | none =>
    if type == "any".toList then Property.ofReference "Any"
    else if type.contains '<' || Text.startsWith ['{'] type then .ofPrimitive "object" .null
    else .ofReference (String.ofList type)

/-- A property of a written type.  A list of allowed values makes it a text. -/
def propertyWith (hint : Hint) (type : List Char) : Property :=
  if hint.choices.isEmpty then propertyOf type else .ofPrimitive "string" .null

def Property.withHint (hint : Hint) (property : Property) : Property :=
  { property with
    format := if hint.format.isEmpty then property.format else some (String.ofList hint.format)
    choices := if hint.choices.isEmpty then property.choices else some hint.choices }

/-- The sample that a hint prescribes for a primitive type: its example, else the first of the
allowed values. -/
def Hint.sample? (hint : Hint) (type : String) : Option Json :=
  if hint.sample.isEmpty then hint.choices.head?.map .text
  else some (Sample.coerce hint.sample type)

end Routebook
