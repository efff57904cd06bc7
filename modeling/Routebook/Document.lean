import Routebook.Notes.Cache
import Routebook.Document.Operation
import Routebook.Json.Writer
import Routebook.Yaml.Writer

namespace Routebook

/-!
# The document

The document lists the operations of all routes by path and method, the tags of the
operations, and the schemas of the catalog.  Routes are added one after the other: paths and
tags keep the order in which they first appear, and an operation replaces an earlier one of
the same path and method.
-/

/-- The operations of a path by the key of their method. -/
abbrev PathItem := Keyed Operation

/-- Paths and tags of the routes added so far. -/
structure Outline where
  paths : Keyed PathItem
  tags : List String

namespace Outline

def empty : Outline :=
  ⟨.empty, []⟩

/-- The route appears in the document. -/
def documents (options : Options) (route : Route) : Bool :=
  !options.isIgnored route.pattern

/-- The method of a route is documented: HEAD never is, and of PUT and PATCH together only
the preferred one. -/
def documentsMethod (options : Options) (methods : MethodSet) (method : Method) : Bool :=
  let isUpdate := method == .put || method == .patch
  let both := methods.contains .put && methods.contains .patch
  method != .head && (!both || !isUpdate || method == options.preferred)

def documentedMethods (options : Options) (methods : MethodSet) : List Method :=
  methods.toList.filter (documentsMethod options methods)

def addTag (tags : List String) (tag : String) : List String :=
  if tags.contains tag then tags else tags ++ [tag]

def addOperation (outline : Outline) (path : String) (method : Method) (operation : Operation) :
    Outline :=
  let item := (outline.paths.get? path).getD .empty
  { paths := outline.paths.insert path (item.insert method.key operation)
    tags := operation.tag.toList.foldl addTag outline.tags }

/-- Add the operations of a route, unless it is left out. -/
def addRoute (options : Options) (outline : Outline) (route : Route)
    (notes : Option Notes) : Outline :=
  if documents options route then
    (documentedMethods options route.methods).foldl (fun outline method =>
      outline.addOperation route.path method (.of options route method notes)) outline
  else outline

def pathsToJson (outline : Outline) : Json :=
  .object (outline.paths.map fun item => .object (item.map Operation.toJson).entries).entries

def tagsToJson (outline : Outline) : Json :=
  .list (outline.tags.map fun tag =>
    .object [("name", .text tag), ("description", .text ("Everything related to " ++ tag))])

end Outline

structure Document where
  title : String
  version : String
  description : Option String
  components : List (String × SchemaObject)
  outline : Outline

namespace Document

/-- The responses that every document offers for reference. -/
def sharedResponses : List (String × String) :=
  [("Forbidden", "Access denied"), ("Accepted", "Request accepted"),
   ("Created", "Resource created"), ("NotFound", "Resource not found"),
   ("NotAcceptable", "Request not acceptable")]

def of (options : Options) (catalog : Catalog) (outline : Outline) : Document :=
  ⟨options.title, options.version, options.description, catalog.components, outline⟩

def toJson (document : Document) : Json :=
  .object [
    ("openapi", .text "3.0.0"),
    ("info", .object ([("title", .text document.title), ("version", .text document.version)] ++
      Json.optionalField "description" .text document.description)),
    ("components", .object [
      ("schemas", .object (SchemaObject.fieldsToJson document.components)),
      ("securitySchemes", .object [(Operation.securityScheme,
        .object [("type", .text "http"), ("scheme", .text "bearer")])]),
      ("responses", .object (sharedResponses.map fun entry =>
        (entry.1, (⟨entry.2, .empty, none⟩ : Response).toJson)))]),
    ("paths", document.outline.pathsToJson),
    ("tags", document.outline.tagsToJson)]

inductive Format where
  | yaml
  | json
  deriving DecidableEq, Repr

def render (document : Document) : Format → String
  | .yaml => String.ofList (Yaml.document document.toJson)
  | .json => document.toJson.toIndented

end Document

/-! ## Assembly -/

/-- What is known while routes are assembled.  `σ` is the state of the reader of
controllers. -/
structure Assembly (σ : Type) where
  outline : Outline
  cache : NotesCache
  reader : σ

namespace Assembly

variable {ε σ : Type}

def start (reader : σ) : Assembly σ :=
  ⟨.empty, .empty, reader⟩

/-- Add a route.  The controller of a documented route is read unless the cache holds it; the
first one that cannot be read ends the assembly. -/
def step (read : String → σ → Except ε String × σ) (catalog : Catalog) (options : Options)
    (assembly : Assembly σ) (route : Route) : Except ε Unit × Assembly σ :=
  if Outline.documents options route then
    match route.handler with
    | .closure _ =>
      (.ok (), { assembly with outline := assembly.outline.addRoute options route none })
    | .controller source action =>
      let (result, cache, reader) :=
        assembly.cache.lookup read catalog options source action assembly.reader
      match result with
      | .error error => (.error error, { assembly with cache := cache, reader := reader })
      | .ok notes =>
        (.ok (), ⟨assembly.outline.addRoute options route notes, cache, reader⟩)
  else (.ok (), assembly)

/-- Add routes one after the other, up to the first error. -/
def run (read : String → σ → Except ε String × σ) (catalog : Catalog) (options : Options)
    (assembly : Assembly σ) : List Route → Except ε Unit × Assembly σ
  | [] => (.ok (), assembly)
  | route :: rest =>
    match assembly.step read catalog options route with
    | (.ok (), assembly) => run read catalog options assembly rest
    | (.error error, assembly) => (.error error, assembly)

end Assembly

/-- The document of routes, or the error of the first controller that cannot be read, and the
state of the reader behind it. -/
def assemble {ε σ : Type} (read : String → σ → Except ε String × σ) (catalog : Catalog)
    (options : Options) (routes : List Route) (reader : σ) : Except ε Document × σ :=
  match (Assembly.start reader).run read catalog options routes with
  | (.ok (), assembly) => (.ok (.of options catalog assembly.outline), assembly.reader)
  | (.error error, assembly) => (.error error, assembly.reader)

end Routebook
