import Routebook.Route.Entry

namespace Routebook

/-!
# Handlers of entries

The handler of an entry names a module; the controller of the route is the source that the
module stands for.  Import specifiers may begin with an alias of the options, and a bare name
stands for a controller in the directory of controllers.
-/

namespace ImportText

/-- The text in quotes behind an opening parenthesis, if the quotes and the parenthesis are
closed again. -/
def quotedArgument? (text : List Char) : Option (List Char) :=
  let isQuote (c : Char) : Bool := c == '"' || c == '\x27'
  match Text.trimStart text with
  | quote :: rest =>
    let target := rest.takeWhile (!isQuote ·)
    match rest.dropWhile (!isQuote ·) with
    | closing :: behind =>
      if isQuote quote && isQuote closing && !target.isEmpty &&
          (Text.trimStart behind).head? == some ')' then some target
      else none
    | [] => none
  | [] => none

/-- The target of the first import expression in a text. -/
def target? : List Char → Option (List Char)
  | [] => none
  | c :: rest =>
    match (Text.stripStart? "import(".toList (c :: rest)).bind quotedArgument? with
    | some target => some target
    | none => target? rest

/-- A text looks like code rather than like a name. -/
def looksLikeCode (text : List Char) : Bool :=
  Text.contains ['=', '>'] text || text.contains '('

/-- The specifier of the imported module: the target of an import expression, else the text
or the name of the function, if it is one. -/
def specifier? : ImportText → Option (List Char)
  | source text =>
    (target? text.toList).or
      (let name := Text.trim text.toList
       if looksLikeCode text.toList || name.isEmpty then none else some name)
  | function name code =>
    (code.bind fun text => target? text.toList).or
      ((RouteEntry.nonEmpty name).map String.toList)

end ImportText

namespace Options

/-- A directory without slashes at its end. -/
def directory (path : String) : List Char :=
  Text.trimEndWhere (· == '/') path.toList

/-- The path that a specifier stands for: the first alias it begins with is replaced by its
directory, and without an alias the leading steps to the current directory are dropped. -/
def modulePath (options : Options) (specifier : List Char) : List Char :=
  let specifier := Text.trim specifier
  let replaced := options.importAliases.entries.findSome? fun entry =>
    (Text.stripStart? entry.1.toList specifier).map (directory entry.2 ++ ·)
  replaced.getD (Text.dropRepeated ['.', '/'] specifier)

/-- The source of a controller.  A path without a slash is looked up in the directory of
controllers, if there is one. -/
def controllerPath (options : Options) (specifier : List Char) : List Char :=
  let path := options.modulePath specifier
  if path.contains '/' then path
  else match options.importAliases.get? controllersAlias with
    | some controllers => directory controllers ++ '/' :: path
    | none => path

end Options

namespace HandlerText

def namespacePath (namespaceName : String) : String :=
  match Text.stripStart? "App/".toList namespaceName.toList with
  | some rest => "app/" ++ String.ofList rest
  | none => namespaceName

/-- A module and an action, cut at the last point.  A point within a path is none. -/
def dottedHandler (options : Options) (reference : List Char) : Handler :=
  let (module, action) :=
    match Text.cutLastAt? '.' reference with
    | some (module, action) =>
      if action.contains '/' then (reference, RouteEntry.defaultAction.toList)
      else (module, action)
    | none => (reference, RouteEntry.defaultAction.toList)
  .controller (String.ofList (options.controllerPath module)) (String.ofList action)

def handler (options : Options) : HandlerText → Handler
  | resolved kind (some namespaceName) (some method) =>
    if kind == "controller" then .controller (namespacePath namespaceName) method
    else .closure Handler.closureName
  | resolved _ _ _ => .closure Handler.closureName
  | dotted reference => dottedHandler options reference.toList
  | lazy module action =>
    match module.specifier? with
    | some specifier => .controller (String.ofList (options.controllerPath specifier)) action
    | none => .closure Handler.closureName
  | closure name => .closure ((RouteEntry.nonEmpty name).getD Handler.closureName)

end HandlerText

namespace RouteEntry

/-- The route of an entry.  An entry that names no method at all is none. -/
def route? (options : Options) (entry : RouteEntry) : Option Route :=
  if entry.methods.isEmpty then none
  else some (.of entry.pattern entry.methods entry.middleware (entry.handler.handler options)
    options.tagIndex)

def routes (options : Options) (entries : List RouteEntry) : List Route :=
  entries.filterMap (route? options)

end RouteEntry
end Routebook
