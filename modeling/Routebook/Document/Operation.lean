import Routebook.Notes
import Routebook.Route

namespace Routebook

/-!
# Operations

An operation documents one method of a route.  What the annotation of its action says comes
first; the route and the method fill in what it leaves out, and never replace anything.
-/

def Parameter.toDocument (parameter : Parameter) : Json :=
  let schema : SchemaObject :=
    { SchemaObject.ofWrittenType parameter.type.toList with
      sample := parameter.sample
      choices := parameter.choices }
  .object ([("name", .text parameter.name), ("in", .text parameter.location.name),
    ("required", .bool parameter.required)] ++
    Json.optionalField "description" .text parameter.description ++
    [("schema", schema.toJson)])

structure Operation where
  summary : Option String
  description : Option String
  operationId : Option String
  tag : Option String
  parameters : List Parameter
  requestBody : Option Body
  /-- Responses by status. -/
  responses : Keyed Response
  /-- Requests must be authorized. -/
  secured : Bool

namespace Operation

/-! ## Parts of an operation -/

/-- The subject of a controller: the name of its source without the word for a controller, in
small letters with blanks between words. -/
def controllerSubject (source : String) : String :=
  let stem := ((Text.piecesAt '/' source.toList).getLast?).getD []
  let subject :=
    ((Text.stripEnd? "_controller".toList stem).or
      (Text.stripEnd? "Controller".toList stem)).getD stem
  String.ofList ((snakeCase subject).map fun c => if c == '_' then ' ' else c)

/-- The summary of an action with a conventional name. -/
def conventionalSummary : Handler → Option String
  | .controller source action =>
    let subject := controllerSubject source
    match action with
    | "index" => some ("Get a list of " ++ subject)
    | "show" => some ("Get a single instance of " ++ subject)
    | "store" => some ("Create " ++ subject)
    | "update" => some ("Update " ++ subject)
    | "destroy" => some ("Delete " ++ subject)
    | _ => none
  | .closure _ => none

/-- The description of an action ends with its place in the sources. -/
def descriptionOf (handler : Handler) (authored : Option String) : Option String :=
  match handler with
  | .controller source action =>
    let place := "_" ++ source ++ "_ - **" ++ action ++ "**"
    some (match authored with
      | some text => text ++ "\n\n" ++ place
      | none => place)
  | .closure _ => authored

/-- The tag of an operation, unless it is empty. -/
def tagOf (route : Route) (notes : Option Notes) : Option String :=
  let tag := ((notes.bind (·.tag)).map fun tag =>
    String.ofList (Text.upper tag.toList)).getD route.tag
  if tag.isEmpty then none else some tag

/-- The status of a response that is expected of a method. -/
def defaultStatus : Method → String
  | .post => "201"
  | .delete => "202"
  | .put | .patch => "204"
  | _ => "200"

def hasBody (method : Method) : Bool :=
  method == .post || method == .put || method == .patch

/-- The parameters of the pattern, overlaid with those of the annotation. -/
def mergeParameters (route : Route) (notes : Option Notes) : Keyed Parameter :=
  let declared : Keyed Parameter :=
    .ofList (route.parameters.map fun parameter => (parameter.name, parameter))
  declared.insertAll ((notes.map (·.parameters.entries)).getD [])

/-- The statuses that are documented without an annotation. -/
def expectedStatuses (method : Method) (secured : Bool) : List String :=
  defaultStatus method :: if secured then ["401", "403"] else []

def addMissing (responses : Keyed Response) (status : String) : Keyed Response :=
  if responses.contains status then responses else responses.insert status (.ofStatus status)

/-- The responses of the annotation and those that are expected. -/
def mergeResponses (method : Method) (secured : Bool) (notes : Option Notes) :
    Keyed Response :=
  (expectedStatuses method secured).foldl addMissing
    ((notes.map (·.responses)).getD .empty)

def of (options : Options) (route : Route) (method : Method) (notes : Option Notes) :
    Operation :=
  let secured := route.middleware.any options.isSecurity
  { summary := (notes.bind (·.summary)).or (conventionalSummary route.handler)
    description := descriptionOf route.handler (notes.bind (·.description))
    operationId := notes.bind (·.operationId)
    tag := tagOf route notes
    parameters := (mergeParameters route notes).values
    requestBody := (notes.bind (·.requestBody)).or
      (if hasBody method then some .unknown else none)
    responses := mergeResponses method secured notes
    secured := secured }

/-! ## Text of an operation -/

def securityScheme : String := "BearerAuth"

def toJson (operation : Operation) : Json :=
  .object (Json.optionalField "summary" .text operation.summary ++
    Json.optionalField "description" .text operation.description ++
    Json.optionalField "operationId" .text operation.operationId ++
    Json.optionalField "tags" (fun tag => .list [.text tag]) operation.tag ++
    (if operation.parameters.isEmpty then []
     else [("parameters", .list (operation.parameters.map Parameter.toDocument))]) ++
    Json.optionalField "requestBody" Body.toJson operation.requestBody ++
    [("responses", .object (operation.responses.map Response.toJson).entries)] ++
    (if operation.secured then
       [("security", .list [.object [(securityScheme, .list [.text "access"])]])]
     else []))

end Operation
end Routebook
