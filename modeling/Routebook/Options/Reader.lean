import Routebook.Document.SchemaReader
import Routebook.Options
import Routebook.Yaml.Reader

namespace Routebook

/-!
# Reading options

Options are a mapping in YAML, and so possibly in JSON.  A key that is missing keeps its
default, an unknown key is passed over, and a key may stand only once.  An empty text sets no
options.
-/

/-- Why a text sets no options. -/
inductive OptionsError where
  /-- The text is no YAML, or does not fit the options. -/
  | malformed
  | notPutOrPatch (method : Method)
  deriving DecidableEq, Repr

namespace OptionsError

/-- The text of an error, where the library words it. -/
def message? : OptionsError → Option String
  | malformed => none
  | notPutOrPatch method => some ("preferredPutPatch must be PUT or PATCH, got " ++ method.name)

end OptionsError

def Header.keys : List String :=
  ["description", "schema"]

def Header.ofTree? (tree : Tree) : Option Header := do
  match ← Tree.record? Header.keys (← tree.fields?) with
  | [description, schema] =>
    some {
      description := ← description.elim (some "") Tree.text?
      schema := ← schema.elim (some (.ofType "string")) (SchemaObject.ofTree? false) }
  | _ => none

def Parameter.keys : List String :=
  ["name", "in", "required", "type", "description", "example", "enum"]

def Parameter.ofTree? (tree : Tree) : Option Parameter := do
  match ← Tree.record? Parameter.keys (← tree.fields?) with
  | [name, location, required, type, description, sample, choices] =>
    some {
      name := ← name.bind Tree.text?
      location := ← (location.bind Tree.choice?).bind ParameterLocation.ofName?
      required := ← required.elim (some false) Tree.flag?
      type := ← type.elim (some defaultType) Tree.text?
      description := ← description.elim (some none) (Tree.optional? Tree.text?)
      sample := ← sample.elim (some none) (Tree.optional? Tree.value?)
      choices := ← choices.elim (some none) (Tree.optional? Tree.texts?) }
  | _ => none

namespace Options

/-- The keys of the options in their order.  The ignored patterns have two keys. -/
def keys : List String :=
  ["title", "version", "description", "ignore", "tagIndex", "snakeCase", "preferredPutPatch",
   "commonHeaders", "commonParameters", "persistAuthorization", "maxExampleDepth",
   "securityMiddleware", "importAliases", "modelsPath", "interfacesPath", "exampleSeed"]

def ignoredAlias : String := "ignorePatterns"

/-- The key of an entry, whichever of its names is used. -/
def canonicalKey (entry : String × Tree) : String × Tree :=
  if entry.1 == ignoredAlias then ("ignore", entry.2) else entry

/-- A place in the tree of the options. -/
inductive Place where
  | options
  /-- Groups of headers by name, a group, and a header. -/
  | headerGroups
  | headerGroup
  | header
  /-- A schema object, and schema objects by name. -/
  | schema
  | properties
  /-- Groups of parameters by name, a group, and a parameter. -/
  | parameterGroups
  | parameterGroup
  | parameter
  /-- Anything else, of which everything is asked for. -/
  | value
  deriving DecidableEq, Repr

/-- The place of a field.  Only unknown keys of the options, of a header, of a schema object and
of a parameter have none. -/
def Place.field? : Place → String → Option Place
  | options, "commonHeaders" => some headerGroups
  | options, "commonParameters" => some parameterGroups
  | options, key => if keys.contains key || key == ignoredAlias then some value else none
  | headerGroups, _ => some headerGroup
  | headerGroup, _ => some header
  | header, "schema" => some schema
  | header, key => if Header.keys.contains key then some value else none
  | schema, "items" => some schema
  | schema, "properties" => some properties
  | schema, key => if SchemaObject.partKeys.contains key then some value else none
  | properties, _ => some schema
  | parameterGroups, _ => some parameterGroup
  | parameter, key => if Parameter.keys.contains key then some value else none
  | parameterGroup, _ | value, _ => some value

def Place.item : Place → Place
  | parameterGroup => parameter
  | _ => value

/-- What is asked of the tree of the options. -/
def outline : Yaml.Outline Place :=
  ⟨.options, Place.item, Place.field?⟩

/-- A tree as a method, by its name in capitals. -/
def methodOf? (tree : Tree) : Option Method :=
  tree.choice?.bind Method.ofName?

/-- A value that is set, or its default. -/
def setting {α : Type} (read : Tree → Option α) (fallback : α) : Option Tree → Option α
  | some tree => read tree
  | none => some fallback

def ofTree? (tree : Tree) : Option Options := do
  match ← Tree.record? keys ((← tree.fields?).map canonicalKey) with
  | [title, version, description, ignored, tagIndex, snakeCase, preferred, commonHeaders,
      commonParameters, persistAuthorization, maxExampleDepth, securityMiddleware, importAliases,
      modelsPath, interfacesPath, exampleSeed] =>
    some {
      title := ← setting Tree.text? default.title title
      version := ← setting Tree.text? default.version version
      description := ← setting (Tree.optional? Tree.text?) default.description description
      ignored := ← setting Tree.texts? default.ignored ignored
      tagIndex := ← setting Tree.natural? default.tagIndex tagIndex
      snakeCase := ← setting Tree.flag? default.snakeCase snakeCase
      preferred := ← setting methodOf? default.preferred preferred
      commonHeaders :=
        ← setting (Tree.keyed? (Tree.keyed? Header.ofTree?)) default.commonHeaders commonHeaders
      commonParameters :=
        ← setting (Tree.keyed? fun group => group.list?.bind fun items =>
          items.mapM Parameter.ofTree?) default.commonParameters commonParameters
      persistAuthorization :=
        ← setting Tree.flag? default.persistAuthorization persistAuthorization
      maxExampleDepth := ← setting Tree.natural? default.maxExampleDepth maxExampleDepth
      securityMiddleware :=
        ← setting Tree.texts? default.securityMiddleware securityMiddleware
      importAliases := ← setting (Tree.keyed? Tree.text?) default.importAliases importAliases
      modelsPath := ← setting Tree.text? default.modelsPath modelsPath
      interfacesPath := ← setting Tree.text? default.interfacesPath interfacesPath
      exampleSeed :=
        (← setting (Tree.optional? Tree.natural?) none exampleSeed).map UInt64.ofNat }
  | _ => none

def read (text : List Char) : Except OptionsError Options :=
  if (Text.trim text).isEmpty then .ok default
  else match (Yaml.read? outline text).bind ofTree? with
    | none => .error .malformed
    | some options =>
      if options.preferred == .put || options.preferred == .patch then .ok options
      else .error (.notPutOrPatch options.preferred)

/-! ## Options as a value -/

def toJson (options : Options) : Json :=
  .object [("title", .text options.title), ("version", .text options.version),
    ("description", .ofOption .text options.description), ("ignore", .ofTexts options.ignored),
    ("tagIndex", .ofUInt64 (UInt64.ofNat options.tagIndex)),
    ("snakeCase", .bool options.snakeCase),
    ("preferredPutPatch", .text options.preferred.name),
    ("commonHeaders", .object (options.commonHeaders.map fun group =>
      .object (group.map Header.toJson).entries).entries),
    ("commonParameters", .object (options.commonParameters.map fun group =>
      .list (group.map Parameter.toJson)).entries),
    ("persistAuthorization", .bool options.persistAuthorization),
    ("maxExampleDepth", .ofUInt64 (UInt64.ofNat options.maxExampleDepth)),
    ("securityMiddleware", .ofTexts options.securityMiddleware),
    ("importAliases", .object (options.importAliases.map .text).entries),
    ("modelsPath", .text options.modelsPath), ("interfacesPath", .text options.interfacesPath),
    ("exampleSeed", .ofOption .ofUInt64 options.exampleSeed)]

end Options
end Routebook
