import Routebook.RandomStream
import Routebook.Schema
import Routebook.Text.Numeral

namespace Routebook
namespace Sample

/-!
# Samples

A sample is the value that stands for a property in the examples of the document.  It is
chosen by the name of the property, by its type, or read from a comment.  A sample for a
number is drawn from the random stream; every other choice leaves the stream alone.
-/

/-- The sample of every time stamp. -/
def dateTime : String := "2021-03-23T16:13:08.489+01:00"

def date : String := "2021-03-23"

def email : String := "johndoe@example.com"

/-- Well-known property names with the sample that they share. -/
def known : List (List String × String) :=
  [(["email"], email),
   (["first_name", "firstName", "firstname"], "John"),
   (["last_name", "lastName", "lastname"], "Doe"),
   (["name", "full_name", "fullName"], "John Doe"),
   (["username", "user_name"], "johndoe"),
   (["phone", "phone_number", "phoneNumber"], "+1 555 123 4567"),
   (["title"], "Lorem Ipsum"),
   (["description", "content", "body"], "Lorem ipsum dolor sit amet"),
   (["url", "website", "link"], "https://example.com"),
   (["avatar", "image", "picture"], "https://example.com/avatar.png"),
   (["uuid", "uid"], "a11bd2f4-3d1e-4d3b-9c6e-8a1e2f9b0c7d"),
   (["token", "remember_me_token"], "Oat.MTI3.b2x8QW"),
   (["country"], "Germany"),
   (["city"], "Berlin"),
   (["street", "address"], "Main Street 1"),
   (["zip", "zip_code", "postal_code"], "10115"),
   (["slug"], "lorem-ipsum"),
   (["created_at", "updated_at", "deleted_at", "createdAt", "updatedAt", "deletedAt"], dateTime)]

def ofField? (field : String) : Option Json :=
  (known.find? fun entry => entry.1.contains field).map fun entry => .text entry.2

def randomInteger (stream : RandomStream) : Json × RandomStream :=
  (.number (.integer stream.draw.1 ⟨by omega, by
    have : stream.draw.1 < 1000 := stream.draw_lt
    omega⟩), stream.draw.2)

def fractional : Json :=
  .number (.real ⟨false, ⟨1023, by decide⟩, ⟨0x8000000000000, by decide⟩⟩)

def ofType (type : String) (format : Option String) (stream : RandomStream) :
    Json × RandomStream :=
  match type with
  | "string" =>
    match format with
    | some "date-time" => (.text dateTime, stream)
    | some "date" => (.text date, stream)
    | _ => (.text "Some string", stream)
  | "number" =>
    match format with
    | some "float" => (fractional, stream)
    | _ => randomInteger stream
  | "integer" => randomInteger stream
  | "boolean" => (.bool true, stream)
  | _ => (.null, stream)

/-- The types whose samples are read as numbers. -/
def isNumeric (type : String) : Bool :=
  type == "integer" || type == "number" || type == "float" || type == "double"

/-- A number as a value: an integer if possible, and null for a number that is not finite. -/
def numeric? (raw : List Char) : Option Json :=
  match (Text.integer? raw).bind Json.ofInt? with
  | some value => some value
  | none => (Text.real? raw).map fun
    | .finite value => .number (.real value)
    | _ => .null

/-- A sample as it is written for a type.  What does not read as a value of the type stays a
text, without the blanks around it. -/
def coerce (raw : List Char) (type : String) : Json :=
  let raw := Text.trim raw
  let literal := Json.text (String.ofList raw)
  if isNumeric type then (numeric? raw).getD literal
  else if type == "boolean" then
    if raw == ['t', 'r', 'u', 'e'] then .bool true
    else if raw == ['f', 'a', 'l', 's', 'e'] then .bool false
    else literal
  else literal

end Sample
end Routebook
