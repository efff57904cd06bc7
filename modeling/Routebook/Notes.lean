import Routebook.Notes.Directive
import Routebook.Document.SchemaReader
import Routebook.Expansion
import Routebook.Options

namespace Routebook

/-!
# Annotations of an action

The directives of a comment block are gathered into one annotation.  A later text replaces an
earlier one; responses and parameters keep the order in which they are first named, and each
directive changes only what it names.
-/

/-- The documentation of one action. -/
structure Notes where
  action : String
  summary : Option String
  description : Option String
  operationId : Option String
  tag : Option String
  /-- Responses by status. -/
  responses : Keyed Response
  requestBody : Option Body
  /-- Parameters by name. -/
  parameters : Keyed Parameter

namespace Notes

def blank (action : String) : Notes :=
  ⟨action, none, none, none, none, .empty, none, .empty⟩

/-! ## Bodies -/

/-- What a reference says if nothing else is said. -/
def referencePhrase (reference : List Char) : String :=
  let (name, isList) := SchemaObject.splitReference reference
  if isList then "Returns **list** of **" ++ name ++ "**"
  else "Returns **single** instance of **" ++ name ++ "**"

def filterRemark (label : String) (entries : List String) : String :=
  if entries.isEmpty then ""
  else " (" ++ label ++ ": " ++ ", ".intercalate entries ++ ")"

def filterRemarks (filter : Filter) : String :=
  filterRemark "with" filter.included ++ filterRemark "exclude" filter.excluded ++
    filterRemark "only" filter.selected

def responseDescription (status remark : String) : Payload → String
  | .reference reference filter =>
    (if remark.isEmpty then referencePhrase reference.toList else remark) ++ filterRemarks filter
  | _ => if remark.isEmpty then statusDescription status else remark

/-- The body of a payload, unless there is none or it is malformed. -/
def bodyOf? (expansion : Expansion) : Payload → Option Body
  | .reference reference filter =>
    some ⟨Body.json, .ofWrittenReference reference.toList,
      some (expansion.expandReference filter reference.toList)⟩
  | .json raw =>
    (Json.read? raw.toList).map fun value =>
      ⟨Body.json, .ofLiteral value, some (expansion.expandInline value)⟩
  | .none => none

/-- The body of a form, whose payload holds its properties. -/
def formOf? : Payload → Option Body
  | .json raw => do
    let properties ← SchemaObject.propertiesOf? true (← Json.readTree? raw.toList)
    some ⟨Body.form, { SchemaObject.ofType "object" with properties := some properties }, none⟩
  | _ => none

/-! ## Headers and parameters -/

def headerSchema (tokens : List Char) : SchemaObject :=
  let type := Token.value "type" tokens
  let schema : SchemaObject :=
    if type.isEmpty then .ofType "string" else .ofWrittenType type
  let sample := Token.value "example" tokens
  if sample.isEmpty then schema
  else { schema with sample := some (Sample.coerce sample (schema.type.getD "")) }

/-- The sample of a parameter that has no example and no allowed values. -/
def defaultSample (type : String) : Json :=
  match type with
  | "string" => .text "string"
  | "integer" | "number" => .ofUInt64 1
  | "float" | "double" => Sample.fractional
  | "boolean" => .bool true
  | _ => .null

/-- The sample of a parameter: its example, else its first allowed value, else one of its
type. -/
def parameterSample (type : String) (tokens : ParameterTokens) : Json :=
  match tokens.sample.or tokens.choices.head? with
  | some raw => Sample.coerce raw.toList type
  | none => defaultSample type

/-- The parameter of a directive.  A parameter of the path is always required. -/
def parameterOf (location : ParameterLocation) (name : String) (description : Option String)
    (tokens : ParameterTokens) : Parameter :=
  let type := tokens.type.getD Parameter.defaultType
  let sample := parameterSample type tokens
  { name := name
    location := location
    required := tokens.required || location == .path
    type := type
    description := description
    sample := if sample.isNull then none else some sample
    choices := if tokens.choices.isEmpty then none else some tokens.choices }

/-! ## Gathering -/

def response (notes : Notes) (status : String) : Response :=
  (notes.responses.get? status).getD (.ofStatus status)

def setResponse (notes : Notes) (status : String) (response : Response) : Notes :=
  { notes with responses := notes.responses.insert status response }

/-- Describe a response.  A payload without a body leaves the body of the response alone. -/
def addResponseBody (expansion : Expansion) (notes : Notes)
    (status remark : String) (payload : Payload) : Notes :=
  let known := notes.response status
  notes.setResponse status
    { known with
      description := responseDescription status remark payload
      body := (bodyOf? expansion payload).or known.body }

def headersOf (options : Options) : HeaderText → List (String × Header)
  | .groups names =>
    names.flatMap fun name => ((options.commonHeaders.get? name).map (·.entries)).getD []
  | .single name description tokens => [(name, ⟨description, headerSchema tokens.toList⟩)]

def addHeaders (notes : Notes) (status : String) (headers : List (String × Header)) :
    Notes :=
  let known := notes.response status
  notes.setResponse status { known with headers := known.headers.insertAll headers }

def addParameters (notes : Notes) (parameters : List Parameter) : Notes :=
  { notes with
    parameters := notes.parameters.insertAll (parameters.map fun item => (item.name, item)) }

/-- The parameters of groups.  A group that the options do not have is empty. -/
def groupParameters (options : Options) (names : List String) : List Parameter :=
  names.flatMap fun name => (options.commonParameters.get? name).getD []

def apply (expansion : Expansion) (options : Options) (notes : Notes) :
    Directive → Notes
  | .summary text => { notes with summary := some text }
  | .description text => { notes with description := some text }
  | .operationId text => { notes with operationId := some text }
  | .tag text => { notes with tag := some text }
  | .responseBody status remark payload =>
    notes.addResponseBody expansion status remark payload
  | .responseHeader status header => notes.addHeaders status (headersOf options header)
  | .requestBody payload =>
    { notes with requestBody := (bodyOf? expansion payload).or notes.requestBody }
  | .requestForm payload =>
    { notes with requestBody := (formOf? payload).or notes.requestBody }
  | .parameter location name description tokens =>
    notes.addParameters [parameterOf location name description tokens]
  | .parameterGroups names => notes.addParameters (groupParameters options names)

/-- What examples in annotations are made from. -/
def expansionOf (catalog : Catalog) (options : Options) : Expansion :=
  ⟨catalog, options.maxExampleDepth⟩

/-- The annotation of an action.  Lines that are no directives are passed over. -/
def ofLines (catalog : Catalog) (options : Options) (action : String) (lines : List String) :
    Notes :=
  (lines.filterMap fun line => Directive.ofLine? line.toList).foldl
    (apply (expansionOf catalog options) options) (blank action)

end Notes
end Routebook
