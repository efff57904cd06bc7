import Routebook.Json.Reader
import Routebook.Token

namespace Routebook

/-!
# Filters of an example

An annotation that refers to a schema may say which parts of it its example shows: relations
to include, fields to leave out, a selection of the outermost fields, and values to put over
them.  A relation within a relation is named by its path, with points between the fields.
-/

/-- What an example shows of a schema. -/
structure Filter where
  /-- Relations, by name or by path, and secrets, by name. -/
  included : List String
  /-- Fields that are left out, by name or by path. -/
  excluded : List String
  /-- The outermost fields that are kept.  No entry keeps them all. -/
  selected : List String
  /-- Values that are put over the outermost fields. -/
  appended : Keyed Json
  deriving DecidableEq

namespace Filter

def blank : Filter :=
  ⟨[], [], [], .empty⟩

/-- The values of an `append` token.  The token holds the fields of an object; anything else
appends nothing. -/
def appendedOf (raw : List Char) : Keyed Json :=
  if raw.isEmpty then .empty
  else match Json.read? ('{' :: raw ++ ['}']) with
    | some (.object fields) => .ofList fields
    | _ => .empty

def ofLine (line : List Char) : Filter :=
  { included := Token.listValue "with" line
    excluded := Token.listValue "exclude" line
    selected := Token.listValue "only" line
    appended := appendedOf (Token.value "append" line) }

/-- An entry is the path itself or continues it by a point. -/
def reaches (path entry : String) : Bool :=
  match Text.stripStart? path.toList entry.toList with
  | some rest => rest.isEmpty || rest.head? == some '.'
  | none => false

def includesPath (filter : Filter) (path : String) : Bool :=
  filter.included.any (reaches path)

end Filter
end Routebook
