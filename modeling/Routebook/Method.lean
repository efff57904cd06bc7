import Routebook.Text.Casing

namespace Routebook

/-!
# Methods of requests

Methods have an order, in which the operations of a route are documented whatever the order
of their declaration.
-/

inductive Method where
  | get
  | post
  | put
  | patch
  | delete
  | options
  | head
  deriving DecidableEq, Repr

namespace Method

/-- Every method, in the order of documentation. -/
def all : List Method :=
  [get, post, put, patch, delete, options, head]

/-- The name in capitals. -/
def name : Method → String
  | get => "GET"
  | post => "POST"
  | put => "PUT"
  | patch => "PATCH"
  | delete => "DELETE"
  | options => "OPTIONS"
  | head => "HEAD"

/-- The key of an operation in the document. -/
def key : Method → String
  | get => "get"
  | post => "post"
  | put => "put"
  | patch => "patch"
  | delete => "delete"
  | options => "options"
  | head => "head"

def ofName? (name : String) : Option Method :=
  all.find? fun method => method.name == name

/-- The method of a name in any case. -/
def ofText? (text : String) : Option Method :=
  ofName? (String.ofList (Text.upper text.toList))

def unknownMessage (text : String) : String :=
  "unknown HTTP method: " ++ text

end Method

/-- A set of methods, as a list in the order of documentation. -/
structure MethodSet where
  toList : List Method
  ordered : toList.Sublist Method.all
  deriving DecidableEq

namespace MethodSet

def ofPredicate (p : Method → Bool) : MethodSet :=
  ⟨Method.all.filter p, List.filter_sublist⟩

/-- The known methods among some names in any case. -/
def ofTexts (texts : List String) : MethodSet :=
  ofPredicate (texts.filterMap Method.ofText?).contains

def contains (methods : MethodSet) (method : Method) : Bool :=
  methods.toList.contains method

end MethodSet
end Routebook
