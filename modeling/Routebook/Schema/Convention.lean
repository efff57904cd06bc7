import Routebook.Schema.Sample

namespace Routebook

/-!
# Conventions of sources

Two tables say how the names of a source are understood: the names of built-in types, and
the names of properties whose meaning is fixed.
-/

/-- A primitive type with its format. -/
structure BuiltinType where
  name : String
  format : Option String
  deriving DecidableEq, Repr

/-- The primitive type of a type name in any case.  Every other name refers to a schema. -/
def builtinType? (raw : List Char) : Option BuiltinType :=
  match String.ofList (Text.lower (Text.trim raw)) with
  | "string" => some ⟨"string", none⟩
  | "number" => some ⟨"number", none⟩
  | "integer" | "bigint" => some ⟨"integer", none⟩
  | "float" | "double" => some ⟨"number", some "float"⟩
  | "boolean" => some ⟨"boolean", none⟩
  | "date" => some ⟨"string", some "date"⟩
  | "datetime" => some ⟨"string", some "date-time"⟩
  | "object" | "unknown" => some ⟨"object", none⟩
  | _ => none

def isSecretName (name : String) : Bool :=
  name == "password" || name == "password_confirmation"

def isTimestampName (name : String) : Bool :=
  name == "created_at" || name == "updated_at" || name == "deleted_at"

/-- A property as its name demands: an address for electronic mail has a format and a sample,
a secret has a format and shows no sample, a textual time stamp is a time. -/
def Property.withConvention (field : String) (property : Property) : Property :=
  if field == "email" then
    { property with
      type := .primitive "string"
      format := some "email"
      sample := .text Sample.email }
  else if isSecretName field then
    { property with
      type := .primitive "string"
      format := some "password"
      sample := .null }
  else if isTimestampName field && property.type == .primitive "string" then
    { property with
      format := some "date-time"
      sample := .text Sample.dateTime }
  else property

end Routebook
