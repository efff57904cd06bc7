import Routebook.Json.Reader
import Routebook.Options
import Routebook.Route
import Routebook.Tree

namespace Routebook

/-!
# Entries of a route list

A framework exports its routes as a list in JSON, or as several lists by domain.  An entry has
one of two shapes: the older one holds the resolved namespace and method of a handler, the
newer one a dotted reference, a lazy import, or a closure.  The first shape that an entry
fits counts, and a list with an entry that fits neither fits nothing.

The records of the older shape and the entries themselves may also be written as lists of
their fields, in order.
-/

/-- A lazy import, as its source text or as a function. -/
inductive ImportText where
  | source (text : String)
  | function (name source : Option String)
  deriving DecidableEq, Repr

/-- The handler of an entry as it is written. -/
inductive HandlerText where
  | resolved (kind : String) (namespaceName method : Option String)
  /-- A module and an action with a point between them. -/
  | dotted (reference : String)
  | lazy (module : ImportText) (action : String)
  | closure (name : Option String)
  deriving DecidableEq, Repr

structure RouteEntry where
  pattern : String
  methods : List String
  middleware : List String
  handler : HandlerText
  deriving DecidableEq, Repr

namespace RouteEntry

/-! ## Records -/

/-- The trees of the fields of a record that is written with keys, or as a list in order. -/
def recordOrList? (keys : List String) : Tree → Option (List (Option Tree))
  | .fields _ entries => Tree.record? keys entries
  | .list _ items =>
    if items.length ≤ keys.length then
      some (items.map some ++ List.replicate (keys.length - items.length) none)
    else none
  | .leaf _ => none

def textsOrNone? (tree : Option Tree) : Option (List String) :=
  tree.elim (some []) Tree.texts?

/-- A text that may be left out or null. -/
def optionalText? (tree : Option Tree) : Option (Option String) :=
  tree.elim (some none) (Tree.optional? Tree.text?)

def nonEmpty (text : Option String) : Option String :=
  text.filter (!·.isEmpty)

/-! ## The older shape -/

def resolvedHandler? (tree : Tree) : Option HandlerText := do
  match ← recordOrList? ["type", "namespace", "method"] tree with
  | [kind, namespaceName, method] =>
    some (.resolved (← kind.bind Tree.text?) (← optionalText? namespaceName)
      (← optionalText? method))
  | _ => none

/-- An entry of the older shape. -/
def older? (tree : Tree) : Option RouteEntry := do
  match ← recordOrList? ["pattern", "methods", "meta", "middleware"] tree with
  | [pattern, methods, information, middleware] =>
    match ← recordOrList? ["resolvedHandler"] (← information) with
    | [handler] =>
      some {
        pattern := ← pattern.bind Tree.text?
        methods := ← textsOrNone? methods
        middleware := ← textsOrNone? middleware
        handler := ← handler.bind resolvedHandler? }
    | _ => none
  | _ => none

/-! ## The newer shape -/

def import? : Tree → Option ImportText
  | .fields _ entries => do
    match ← Tree.record? ["name", "source"] entries with
    | [name, source] => some (.function (← optionalText? name) (← optionalText? source))
    | _ => none
  | tree => tree.text?.map .source

/-- The action of a controller whose import names none. -/
def defaultAction : String := "handle"

/-- A reference to a handler: dotted, or a lazy import with or without an action. -/
def reference? : Tree → Option HandlerText
  | .list _ [module, action] => do some (.lazy (← import? module) (← action.text?))
  | .list _ [module] => (import? module).map fun module => .lazy module defaultAction
  | tree => tree.text?.map .dotted

/-- A handler that is written with keys.  One whose reference does not fit is a closure. -/
def keyedHandler? (entries : List (String × Tree)) : Option HandlerText :=
  let referring := do
    match ← Tree.record? ["reference", "name"] entries with
    | [reference, name] => do
      let _ ← optionalText? name
      reference.bind reference?
    | _ => none
  let closing := do
    match ← Tree.record? ["name"] entries with
    | [name] => (optionalText? name).map HandlerText.closure
    | _ => none
  referring.or closing

def handler? : Tree → Option HandlerText
  | .fields _ entries => keyedHandler? entries
  | tree => tree.text?.map .dotted

/-- The name of a middleware: a text, or the name of a function.  Everything else is a
closure. -/
def middlewareName : Tree → String
  | .fields _ entries =>
    let name := do
      match ← Tree.record? ["name"] entries with
      | [name] => optionalText? name
      | _ => none
    (nonEmpty (name.getD none)).getD Handler.closureName
  | tree => tree.text?.getD Handler.closureName

def newer? (tree : Tree) : Option RouteEntry := do
  match ← recordOrList? ["pattern", "methods", "handler", "middleware"] tree with
  | [pattern, methods, handler, middleware] =>
    some {
      pattern := ← pattern.bind Tree.text?
      methods := ← textsOrNone? methods
      middleware := (← middleware.elim (some []) Tree.list?).map middlewareName
      handler := ← handler.bind handler? }
  | _ => none

def ofTree? (tree : Tree) : Option RouteEntry :=
  (older? tree).or (newer? tree)

def listOfTree? (tree : Tree) : Option (List RouteEntry) :=
  tree.list?.bind fun items => items.mapM ofTree?

/-- The entries of a route list, those of several domains one after the other. -/
def allOfTree? (tree : Tree) : Option (List RouteEntry) :=
  match tree with
  | .fields _ _ => (tree.keyed? listOfTree?).map fun domains => domains.values.flatten
  | _ => listOfTree? tree

end RouteEntry

/-- Why a text holds no route list. -/
inductive RouteListError where
  | malformed
  /-- The text is JSON of another shape. -/
  | mismatch
  deriving DecidableEq, Repr

def RouteListError.message? : RouteListError → Option String
  | .malformed => none
  | .mismatch => some "data did not match any variant of untagged enum RouteList"

def readRouteList (text : List Char) : Except RouteListError (List RouteEntry) :=
  match (Json.readTree? text).filter fun tree => tree.value?.isSome with
  | none => .error .malformed
  | some tree =>
    match RouteEntry.allOfTree? tree with
    | none => .error .mismatch
    | some entries => .ok entries

end Routebook
