import Routebook.Schema.Catalog

namespace Routebook

/-!
# Schema objects of the document

A schema object describes a value in the document: by reference to a component, by a type
with its properties, or as a list of items.  Parts that say nothing are left out.
-/

structure SchemaObject where
  reference : Option String
  type : Option String
  format : Option String
  description : Option String
  nullable : Option Bool
  choices : Option (List String)
  sample : Option Json
  items : Option SchemaObject
  properties : Option (List (String × SchemaObject))
  deriving Inhabited

namespace SchemaObject

def blank : SchemaObject :=
  ⟨none, none, none, none, none, none, none, none, none⟩

def ofType (type : String) : SchemaObject :=
  { blank with type := some type }

/-- Where the components of the document are found. -/
def componentPath : String := "#/components/schemas/"

/-- A reference to the component of a schema. -/
def ofReference (name : String) : SchemaObject :=
  { blank with reference := some (componentPath ++ name) }

def ofItems (items : SchemaObject) : SchemaObject :=
  { blank with type := some "array", items := some items }

/-! ## Text of a schema object -/

mutual

def toJson : SchemaObject → Json
  | ⟨reference, type, format, description, nullable, choices, sample, items, properties⟩ =>
    .object (Json.optionalField "$ref" .text reference ++ Json.optionalField "type" .text type ++
      Json.optionalField "format" .text format ++
      Json.optionalField "description" .text description ++
      Json.optionalField "nullable" .bool nullable ++ Json.optionalField "enum" .ofTexts choices ++
      Json.optionalField "example" id sample ++ itemsField items ++ propertiesField properties)

def itemsField : Option SchemaObject → List (String × Json)
  | none => []
  | some items => [("items", toJson items)]

def propertiesField : Option (List (String × SchemaObject)) → List (String × Json)
  | none => []
  | some properties => [("properties", .object (fieldsToJson properties))]

def fieldsToJson : List (String × SchemaObject) → List (String × Json)
  | [] => []
  | (name, schema) :: rest => (name, toJson schema) :: fieldsToJson rest

end

/-! ## Schema objects of schemas -/

/-- The name of a written reference, and whether it refers to a list. -/
def splitReference (reference : List Char) : String × Bool :=
  let reference := Text.trim reference
  match Text.stripEnd? ['[', ']'] reference with
  | some name => (String.ofList (Text.trim name), true)
  | none => (String.ofList reference, false)

def ofWrittenReference (reference : List Char) : SchemaObject :=
  let (name, isList) := splitReference reference
  if isList then ofItems (ofReference name) else ofReference name

/-- The schema object of an example that is written out. -/
def ofLiteral : Json → SchemaObject
  | .list _ => ofType "array"
  | _ => ofType "object"

/-- The schema object of a written type.  A type that is not built in counts as a text. -/
def ofWrittenType (type : List Char) : SchemaObject :=
  match builtinType? type with
  | some builtin => { ofType builtin.name with format := builtin.format }
  | none => ofType "string"

/-- The schema object of a single value of a property. -/
def ofElement (property : Property) : SchemaObject :=
  match property.type with
  | .reference name => ofReference name
  | .primitive name =>
    { ofType name with
      format := property.format
      choices := property.choices
      sample := if property.sample.isNull then none else some property.sample }

/-- The schema object of a property.  A reference cannot say that its value may be missing. -/
def ofProperty (property : Property) : SchemaObject :=
  let schema := if property.isArray then ofItems (ofElement property) else ofElement property
  if property.nullable && schema.reference.isNone then { schema with nullable := some true }
  else schema

/-- The component of a schema. -/
def ofSchema (schema : Schema) : SchemaObject :=
  { ofType "object" with
    description := some schema.kind.label
    properties := some (schema.properties.entries.map fun entry =>
      (entry.1, ofProperty entry.2)) }

end SchemaObject

/-- The components of a catalog, in its order. -/
def Catalog.components (catalog : Catalog) : List (String × SchemaObject) :=
  catalog.schemas.map fun schema => (schema.name, .ofSchema schema)

end Routebook
