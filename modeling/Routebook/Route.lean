import Routebook.Method
import Routebook.Parameter
import Routebook.Text.Cut

namespace Routebook

/-!
# Routes

A route answers the requests of some methods whose path matches a pattern.  The segments of a
pattern that begin with a colon are parameters; the document writes them in braces.  A route
is handled by an action of a controller or by a closure.
-/

/-- What handles the requests of a route. -/
inductive Handler where
  /-- An action of the controller in a source, which is named without its extension. -/
  | controller (source action : String)
  | closure (name : String)
  deriving DecidableEq, Repr

def Handler.closureName : String := "closure"

structure Route where
  methods : MethodSet
  pattern : String
  /-- The pattern as the document writes it. -/
  path : String
  parameters : List Parameter
  middleware : List String
  handler : Handler
  /-- The tag of the route, empty if the pattern names none. -/
  tag : String
  deriving DecidableEq

namespace Route

/-! ## Patterns -/

def segments (pattern : List Char) : List (List Char) :=
  Text.piecesAt '/' pattern

/-- The parameter of a segment, if it is one.  A question mark at its end makes it optional. -/
def segmentParameter? (segment : List Char) : Option Parameter :=
  match segment with
  | ':' :: name =>
    match Text.stripEnd? ['?'] name with
    | some name => some (.ofPath (String.ofList name) false)
    | none => some (.ofPath (String.ofList name) true)
  | _ => none

def segmentPath (segment : List Char) : List Char :=
  match segmentParameter? segment with
  | some parameter => '{' :: parameter.name.toList ++ ['}']
  | none => segment

def patternParameters (pattern : List Char) : List Parameter :=
  (segments pattern).filterMap segmentParameter?

/-- A pattern as the document writes it.  The empty pattern is the root. -/
def patternPath (pattern : List Char) : List Char :=
  let path := Text.joinWith ['/'] ((segments pattern).map segmentPath)
  if path.isEmpty then ['/'] else path

/-! ## Tags -/

/-- A segment that names something: neither empty nor a parameter. -/
def isPlainSegment (segment : List Char) : Bool :=
  !segment.isEmpty && !Text.startsWith [':'] segment

/-- The tag of a pattern in capitals: the segment at the index, or else the first one that
names something. -/
def patternTag (pattern : List Char) (index : Nat) : List Char :=
  let segments := segments pattern
  let chosen := (segments[index]?.filter isPlainSegment).or (segments.find? isPlainSegment)
  (chosen.map Text.upper).getD []

/-! ## Construction -/

/-- The route with a pattern, methods named in any case, middleware and a handler. -/
def of (pattern : String) (methods : List String) (middleware : List String) (handler : Handler)
    (tagIndex : Nat) : Route :=
  let pattern := if pattern.isEmpty then "/" else pattern
  { methods := .ofTexts methods
    pattern := pattern
    path := String.ofList (patternPath pattern.toList)
    parameters := patternParameters pattern.toList
    middleware := middleware
    handler := handler
    tag := String.ofList (patternTag pattern.toList tagIndex) }

end Route
end Routebook
