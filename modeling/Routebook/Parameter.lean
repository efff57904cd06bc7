import Routebook.Json

namespace Routebook

/-!
# Parameters of a request

A parameter is declared by a segment of a route, by an annotation, or by a group of the
options.
-/

/-- Where a request carries a parameter. -/
inductive ParameterLocation where
  | path
  | query
  | header
  deriving DecidableEq, Repr

namespace ParameterLocation

def name : ParameterLocation → String
  | .path => "path"
  | .query => "query"
  | .header => "header"

def ofName? (name : String) : Option ParameterLocation :=
  [path, query, header].find? fun location => location.name == name

end ParameterLocation

structure Parameter where
  name : String
  location : ParameterLocation
  required : Bool
  /-- The type as it is written. -/
  type : String
  description : Option String
  sample : Option Json
  /-- The allowed values. -/
  choices : Option (List String)
  deriving DecidableEq

def Parameter.defaultType : String := "string"

def Parameter.ofPath (name : String) (required : Bool) : Parameter :=
  ⟨name, .path, required, defaultType, none, none, none⟩

/-- A parameter as it is declared in the options. -/
def Parameter.toJson (parameter : Parameter) : Json :=
  .object ([("name", .text parameter.name), ("in", .text parameter.location.name),
    ("required", .bool parameter.required), ("type", .text parameter.type)] ++
    Json.optionalField "description" .text parameter.description ++
    Json.optionalField "example" id parameter.sample ++
    Json.optionalField "enum" .ofTexts parameter.choices)

end Routebook
