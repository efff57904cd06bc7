import Routebook.Document.SchemaObject
import Routebook.Tree

namespace Routebook
namespace SchemaObject

/-!
# Reading schema objects

A schema object may be written out by the author of an annotation or of the options.  Its
parts are read by key; a known key must not be repeated, and unknown keys are passed over.
In JSON the parts may also be written as a list in their order, all of them.
-/

/-- The keys of the parts, in their order. -/
def partKeys : List String :=
  ["$ref", "type", "format", "description", "nullable", "enum", "example", "items", "properties"]

mutual

def ofTree? (positional : Bool) : Tree → Option SchemaObject
  | .leaf mark => if mark.isVoid then some blank else none
  | .fields _ entries =>
    if ((entries.map (·.1)).filter partKeys.contains).Nodup then
      readParts? positional blank entries
    else none
  | .list _ [reference, type, format, description, nullable, choices, sample, items, properties] =>
    if positional then do
      let schema ← readPart? positional blank "$ref" reference
      let schema ← readPart? positional schema "type" type
      let schema ← readPart? positional schema "format" format
      let schema ← readPart? positional schema "description" description
      let schema ← readPart? positional schema "nullable" nullable
      let schema ← readPart? positional schema "enum" choices
      let schema ← readPart? positional schema "example" sample
      let schema ← readPart? positional schema "items" items
      readPart? positional schema "properties" properties
    else none
  | .list _ _ => none

/-- Read parts into a schema object. -/
def readParts? (positional : Bool) (schema : SchemaObject) :
    List (String × Tree) → Option SchemaObject
  | [] => some schema
  | (key, tree) :: rest =>
    match readPart? positional schema key tree with
    | some schema => readParts? positional schema rest
    | none => none

def readPart? (positional : Bool) (schema : SchemaObject) (key : String) (tree : Tree) :
    Option SchemaObject :=
  match key with
  | "$ref" => (tree.optional? Tree.text?).map fun value => { schema with reference := value }
  | "type" => (tree.optional? Tree.text?).map fun value => { schema with type := value }
  | "format" => (tree.optional? Tree.text?).map fun value => { schema with format := value }
  | "description" =>
    (tree.optional? Tree.text?).map fun value => { schema with description := value }
  | "nullable" => (tree.optional? Tree.flag?).map fun value => { schema with nullable := value }
  | "enum" => (tree.optional? Tree.texts?).map fun value => { schema with choices := value }
  | "example" => (tree.optional? Tree.value?).map fun value => { schema with sample := value }
  | "items" =>
    match tree.isNull?, ofTree? positional tree with
    | some true, _ => some { schema with items := none }
    | some false, some items => some { schema with items := some items }
    | _, _ => none
  | "properties" =>
    match tree.isNull?, propertiesOf? positional tree with
    | some true, _ => some { schema with properties := none }
    | some false, some properties => some { schema with properties := some properties }
    | _, _ => none
  | _ => some schema

def propertiesOf? (positional : Bool) : Tree → Option (List (String × SchemaObject))
  | .leaf mark => if mark.isVoid then some [] else none
  | .list _ _ => none
  | .fields _ entries => readProperties? positional [] entries

/-- Read named properties over those read before. -/
def readProperties? (positional : Bool) (before : List (String × SchemaObject)) :
    List (String × Tree) → Option (List (String × SchemaObject))
  | [] => some before
  | (name, tree) :: rest =>
    match ofTree? positional tree with
    | some schema => readProperties? positional (insertEntry name schema before) rest
    | none => none

end

end SchemaObject
end Routebook
