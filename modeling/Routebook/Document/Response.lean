import Routebook.Document.SchemaObject

namespace Routebook

/-!
# Bodies and responses

The parts of an operation that annotations describe: bodies with their media type, headers,
and responses.  A response without a description of its own is described by its status.
-/

/-- A body in one media type. -/
structure Body where
  mediaType : String
  schema : SchemaObject
  sample : Option Json

namespace Body

def json : String := "application/json"

def form : String := "multipart/form-data"

def unknown : Body :=
  ⟨json, .ofType "object", none⟩

/-- The bodies of an operation by media type. -/
def content (body : Body) : Json :=
  .object [(body.mediaType, .object (("schema", body.schema.toJson) ::
    Json.optionalField "example" id body.sample))]

def toJson (body : Body) : Json :=
  .object [("content", body.content)]

end Body

structure Header where
  description : String
  schema : SchemaObject

def Header.toJson (header : Header) : Json :=
  .object [("description", .text header.description), ("schema", header.schema.toJson)]

/-- The reason phrases of the statuses. -/
def statusReasons : List (String × String) :=
  [("100", "Continue"), ("101", "Switching Protocols"), ("200", "OK"), ("201", "Created"),
   ("202", "Accepted"), ("203", "Non Authoritative Information"), ("204", "No Content"),
   ("205", "Reset Content"), ("206", "Partial Content"), ("301", "Moved Permanently"),
   ("302", "Found"), ("303", "See Other"), ("304", "Not Modified"),
   ("307", "Temporary Redirect"), ("308", "Permanent Redirect"), ("400", "Bad Request"),
   ("401", "Unauthorized"), ("402", "Payment Required"), ("403", "Forbidden"),
   ("404", "Not Found"), ("405", "Method Not Allowed"), ("406", "Not Acceptable"),
   ("408", "Request Timeout"), ("409", "Conflict"), ("410", "Gone"),
   ("413", "Request Too Long"), ("415", "Unsupported Media Type"),
   ("422", "Unprocessable Entity"), ("423", "Locked"), ("429", "Too Many Requests"),
   ("500", "Internal Server Error"), ("501", "Not Implemented"), ("502", "Bad Gateway"),
   ("503", "Service Unavailable"), ("504", "Gateway Timeout")]

/-- The description of a status, with its reason if it has one. -/
def statusDescription (status : String) : String :=
  match entryAt? status statusReasons with
  | some reason => "Returns **" ++ status ++ "** (" ++ reason ++ ")"
  | none => "Returns **" ++ status ++ "**"

structure Response where
  description : String
  headers : Keyed Header
  body : Option Body

namespace Response

def ofStatus (status : String) : Response :=
  ⟨statusDescription status, .empty, none⟩

def toJson (response : Response) : Json :=
  .object (("description", .text response.description) ::
    (if response.headers.isEmpty then []
     else [("headers", .object (response.headers.map Header.toJson).entries)]) ++
    Json.optionalField "content" Body.content response.body)

end Response
end Routebook
