import Routebook.Json
import Routebook.Text.Casing
import Routebook.Text.Cut

namespace Routebook

/-!
# Schemas

A schema is a named object shape: properties in order, each of a primitive type or of the
shape of another schema.  Schemas come from models, from interfaces, or are built in.
-/

/-- Where a schema comes from. -/
inductive SchemaKind where
  /-- A persisted model, whose relations appear in examples on request only. -/
  | model
  | interface
  | builtin
  deriving DecidableEq, Repr

/-- The description of a schema in the document. -/
def SchemaKind.label : SchemaKind → String
  | .model => "Model"
  | .interface => "Interface"
  | .builtin => "Any JSON object not defined as schema"

inductive PropertyType where
  /-- A primitive type of the document, such as an integer. -/
  | primitive (name : String)
  | reference (name : String)
  deriving DecidableEq, Repr

structure Property where
  type : PropertyType
  isArray : Bool
  nullable : Bool
  format : Option String
  /-- The example of one value, null if none may be shown. -/
  sample : Json
  /-- The allowed values. -/
  choices : Option (List String)
  deriving DecidableEq

namespace Property

/-- A single value of a primitive type. -/
def ofPrimitive (name : String) (sample : Json) : Property :=
  ⟨.primitive name, false, false, none, sample, none⟩

/-- A single value of the shape of another schema. -/
def ofReference (name : String) : Property :=
  ⟨.reference name, false, false, none, .null, none⟩

/-- The schema that the property refers to. -/
def relation? (property : Property) : Option String :=
  match property.type with
  | .reference name => some name
  | .primitive _ => none

end Property

/-- A named object shape. -/
structure Schema where
  name : String
  kind : SchemaKind
  properties : Keyed Property
  deriving DecidableEq

/-! ## Sources of schemas -/

/-- The text of a source file and the path it is known by. -/
structure Source where
  path : String
  text : String
  deriving DecidableEq, Repr

/-- The file name of a path without directories and without anything behind its first
point. -/
def Source.stem (source : Source) : String :=
  let file := ((Text.pieces (fun c => c == '/' || c == '\\') source.path.toList).getLast?).getD []
  String.ofList (file.takeWhile (· != '.'))

/-! ## Names -/

/-- The characters that come before a capital within a name in capitals and small letters:
an underscore where a word begins.  A word begins at a capital after any other character
than an underscore or a capital, and at the last capital of a row before a small letter. -/
def wordBreak (previous : Option Char) (next : Option Char) : List Char :=
  match previous with
  | none => []
  | some before =>
    let afterCapital := Text.isUppercase before
    if (!afterCapital && before != '_') || (afterCapital && next.any Text.isLowercase) then ['_']
    else []

def snakeCaseFrom (previous : Option Char) : List Char → List Char
  | [] => []
  | c :: rest =>
    (if Text.isUppercase c then wordBreak previous rest.head? ++ Text.lowerChar c else [c]) ++
      snakeCaseFrom (some c) rest

def snakeCase (name : List Char) : List Char :=
  snakeCaseFrom none name

def capitalize : List Char → List Char
  | [] => []
  | c :: rest => Text.upperChar c ++ rest

/-- The words between underscores and hyphens in a row, each with a capital at its start. -/
def pascalCase (name : List Char) : List Char :=
  (((Text.pieces (fun c => c == '_' || c == '-') name).filter (!·.isEmpty)).map capitalize).flatten

end Routebook
