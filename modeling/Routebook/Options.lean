import Routebook.Document.Response
import Routebook.Method
import Routebook.Parameter

namespace Routebook

/-!
# Options of a run

The options say what the document is called, where sources are found, which routes are left
out, and which groups of headers and parameters annotations may use.
-/

/-- The options of a run. -/
structure Options where
  title : String
  version : String
  description : Option String
  /-- Route patterns that are left out.  A star at the end stands for any continuation. -/
  ignored : List String
  /-- The segment of a pattern that names the tag of a route. -/
  tagIndex : Nat
  /-- Field names of models are written with underscores. -/
  snakeCase : Bool
  /-- The method that is documented where a route has both PUT and PATCH. -/
  preferred : Method
  commonHeaders : Keyed (Keyed Header)
  commonParameters : Keyed (List Parameter)
  /-- A setting for viewers of the document. -/
  persistAuthorization : Bool
  maxExampleDepth : Nat
  /-- Middleware that secures a route. -/
  securityMiddleware : List String
  /-- Heads of import specifiers and the directories they stand for. -/
  importAliases : Keyed String
  modelsPath : String
  interfacesPath : String
  exampleSeed : Option UInt64

namespace Options

def controllersAlias : String := "#controllers"

def default : Options :=
  { title := "AdonisJS API"
    version := "1.0.0"
    description := none
    ignored := ["/swagger", "/docs"]
    tagIndex := 2
    snakeCase := true
    preferred := .put
    commonHeaders := .empty
    commonParameters := .empty
    persistAuthorization := false
    maxExampleDepth := 10
    securityMiddleware := ["auth"]
    importAliases := .ofList [(controllersAlias, "app/controllers")]
    modelsPath := "app/models"
    interfacesPath := "app/interfaces"
    exampleSeed := none }

/-- A pattern matches an entry of the ignored ones. -/
def matchesIgnored (pattern entry : String) : Bool :=
  match Text.stripEnd? ['*'] entry.toList with
  | some head => Text.startsWith head pattern.toList
  | none => pattern == entry

def isIgnored (options : Options) (pattern : String) : Bool :=
  options.ignored.any (matchesIgnored pattern)

/-- A middleware is a securing one, or continues its name by a colon. -/
def matchesSecurity (middleware secured : String) : Bool :=
  match Text.stripStart? secured.toList middleware.toList with
  | some rest => rest.isEmpty || rest.head? == some ':'
  | none => false

def isSecurity (options : Options) (middleware : String) : Bool :=
  options.securityMiddleware.any (matchesSecurity middleware)

end Options
end Routebook
