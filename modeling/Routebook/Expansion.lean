import Routebook.Document.SchemaObject
import Routebook.Filter

namespace Routebook

/-!
# Examples of schemas

The example of a schema is an object with the samples of its properties, in which a relation
is replaced by the example of the schema it refers to.  A filter decides which properties
appear.  Relations to models appear only on request, and no chain of relations is followed
beyond a given depth; at that depth an empty placeholder stands for the relation.

Main definitions: `Expansion.expand` for the example of a schema with the values that the
filter appends, `Expansion.expandReference` for a written reference, and
`Expansion.expandInline` for the references within an example that is written out.
-/

/-- The relations followed from the outermost schema, the first one first. -/
abbrev Hops := List String

namespace Hops

/-- The path of the hops with points between them. -/
def path (hops : Hops) : String :=
  ".".intercalate hops

/-- No relation with a name has been followed. -/
def isRoot (hops : Hops) : Bool :=
  hops.path.isEmpty

def child (hops : Hops) (key : String) : Hops :=
  if hops.isRoot then [key] else hops ++ [key]

def fieldPath (hops : Hops) (key : String) : String :=
  hops.path ++ "." ++ key

/-- The path leads to a relation within a relation. -/
def isNested (hops : Hops) : Bool :=
  hops.path.toList.contains '.'

def enclosing (hops : Hops) : String :=
  match Text.cutLastAt? '.' hops.path.toList with
  | some (before, _) => String.ofList before
  | none => hops.path

end Hops

namespace Filter

/-- The field is named by itself or by its path among the excluded ones. -/
def excludes (filter : Filter) (hops : Hops) (key : String) : Bool :=
  filter.excluded.contains key ||
    (!hops.isRoot && filter.excluded.contains (hops.fieldPath key))

/-- A secret appears only if its bare name is included or selected. -/
def hidesSecret (filter : Filter) (key : String) : Bool :=
  isSecretName key && !filter.included.contains key && !filter.selected.contains key

/-- All time stamps are left out together. -/
def dropsTimestamp (filter : Filter) (key : String) : Bool :=
  isTimestampName key && filter.excluded.contains "timestamps"

/-- The outermost fields are restricted to a selection that holds this one. -/
def selects (filter : Filter) (hops : Hops) (key : String) : Bool :=
  hops.isRoot && filter.selected.contains key

/-- The filter shows a field at the end of the hops, whatever its type.  A selected field
needs nothing else. -/
def shows (filter : Filter) (hops : Hops) (key : String) : Bool :=
  filter.selects hops key ||
    (!(hops.isRoot && !filter.selected.isEmpty) &&
      !(filter.excludes hops key || filter.hidesSecret key || filter.dropsTimestamp key))

/-- A relation to a model within a relation is requested by its path, or by all relations of
what encloses it. -/
def requestsBranch (filter : Filter) (hops : Hops) : Bool :=
  filter.includesPath hops.path ||
    filter.included.contains (hops.enclosing ++ ".relations") ||
    (hops.length == 2 && filter.included.contains (hops.headD "" ++ ".relations"))

/-- An outermost relation to a model is requested by its name, by a path that continues it, or
together with all relations. -/
def requestsRelation (filter : Filter) (key : String) : Bool :=
  filter.included.contains "relations" || filter.includesPath key

end Filter

/-- What examples are made from. -/
structure Expansion where
  catalog : Catalog
  /-- The number of relations that a chain may follow. -/
  maxDepth : Nat

namespace Expansion

/-- One value as an example of a property, in a list if the property is one. -/
def wrap (property : Property) (value : Json) : Json :=
  if property.isArray then .list [value] else value

/-- The example of a property of primitive type.  A list without a sample is empty. -/
def literal (property : Property) : Json :=
  if property.isArray && property.sample.isNull then .list [] else wrap property property.sample

/-- What stands for a relation at the greatest depth. -/
def placeholder (property : Property) : Json :=
  if property.isArray then .list [] else .object []

/-- The outermost relation to a model is left out unless it is selected or requested. -/
def omitsRelation (expansion : Expansion) (filter : Filter) (hops : Hops) (key target : String) :
    Bool :=
  hops.isRoot && !filter.selects hops key && expansion.catalog.isModel target &&
    !filter.requestsRelation key

/-- The example of a property at the end of the hops, if it appears.  `follow` expands the
schema of a relation. -/
def expandProperty (expansion : Expansion) (filter : Filter) (hops : Hops)
    (follow : Hops → String → Option Json) (key : String) (property : Property) : Option Json :=
  if !filter.shows hops key then none
  else match property.relation? with
    | none => some (literal property)
    | some target =>
      if expansion.omitsRelation filter hops key target then none
      else if expansion.maxDepth < hops.length + 1 then some (placeholder property)
      else (follow (hops.child key) target).map (wrap property)

/-- The branch of a relation to a model within a relation is left out unless it is
requested. -/
def omitsBranch (expansion : Expansion) (filter : Filter) (hops : Hops) (name : String) : Bool :=
  hops.isNested && expansion.catalog.isModel name && !filter.requestsBranch hops

def expandFields (expansion : Expansion) (filter : Filter) (hops : Hops)
    (follow : Hops → String → Option Json) (schema : Schema) : List (String × Json) :=
  schema.properties.entries.filterMap fun entry =>
    (expansion.expandProperty filter hops follow entry.1 entry.2).map fun value => (entry.1, value)

/-- The example of a schema at the end of the hops, or nothing if the branch was not
requested.  A schema that is not in the catalog is an empty object.

The budget counts the relations that may still be followed.  Every hop with a name counts
towards the depth, and hops without a name repeat only around a cycle of schemas whose
examples have no end; `budget` below is therefore never used up where an example exists. -/
def expandSchema (expansion : Expansion) (filter : Filter) :
    (budget : Nat) → (hops : Hops) → (name : String) → Option Json
  | 0, _, _ => some (.object [])
  | budget + 1, hops, name =>
    match expansion.catalog.get? name with
    | none => some (.object [])
    | some schema =>
      if expansion.omitsBranch filter hops name then none
      else
        some (.object (expansion.expandFields filter hops (expandSchema expansion filter budget)
          schema))

/-- More relations than any chain follows. -/
def budget (expansion : Expansion) : Nat :=
  expansion.maxDepth + expansion.catalog.schemas.length + 2

def overlay (appended : Keyed Json) : Json → Json
  | .object fields =>
    .object (appended.entries.foldl (fun fields entry => insertEntry entry.1 entry.2 fields) fields)
  | value => value

/-- The example of a schema before values are appended. -/
def bare (expansion : Expansion) (filter : Filter) (name : String) : Json :=
  (expansion.expandSchema filter expansion.budget [] name).getD (.object [])

def expand (expansion : Expansion) (filter : Filter) (name : String) : Json :=
  overlay filter.appended (expansion.bare filter name)

/-- The example of a written reference; a list has one item. -/
def expandReference (expansion : Expansion) (filter : Filter) (reference : List Char) : Json :=
  let (name, isList) := SchemaObject.splitReference reference
  let value := expansion.expand filter name
  if isList then .list [value] else value

/-- The example of a text within an example that is written out: a reference, with the tokens
of the text as its filter, or the text itself. -/
def expandText (expansion : Expansion) (value : String) : Json :=
  match Token.angleReference? value.toList with
  | some reference => expansion.expandReference (.ofLine value.toList) reference
  | none => .text value

mutual

/-- An example that is written out, with the references in its texts expanded. -/
def expandInline (expansion : Expansion) : Json → Json
  | .object fields => .object (expandInlineFields expansion fields)
  | .list items => .list (expandInlineItems expansion items)
  | .text value => expansion.expandText value
  | value => value

def expandInlineItems (expansion : Expansion) : List Json → List Json
  | [] => []
  | item :: rest => expandInline expansion item :: expandInlineItems expansion rest

def expandInlineFields (expansion : Expansion) : List (String × Json) → List (String × Json)
  | [] => []
  | (key, value) :: rest =>
    (key, expandInline expansion value) :: expandInlineFields expansion rest

end

end Expansion
end Routebook
