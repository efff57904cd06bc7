import Routebook.Yaml.Cursor
import Routebook.Yaml.Scalar

namespace Routebook
namespace Yaml

/-!
# Tags

A tag says what a node is.  It is written as a handle and a suffix, and a handle stands for the
begin of many tags; a tag in angle brackets is written in full.
-/

/-- A tag as it is written.  A tag in full has no handle. -/
structure TagText where
  handle : List Char
  suffix : List Char
  deriving DecidableEq, Repr

/-- The characters of the name of an anchor, and of a handle. -/
def isNameChar (c : Char) : Bool :=
  Text.isAsciiAlphanumeric c || c == '_' || c == '-'

/-- The characters of a tag.  Where no list of flow style can be meant there are some more. -/
def isTagChar (full : Bool) (c : Char) : Bool :=
  isNameChar c ||
    [';', '/', '?', ':', '@', '&', '=', '+', '$', '.', '%', '!', '~', '*', '\x27', '(',
      ')'].contains c ||
    (full && [',', '[', ']'].contains c)

/-! ## Escaped octets -/

/-- An octet that is written with two hexadecimal digits behind a percent sign, and the text
behind it. -/
def octet? : List Char → Option (Nat × List Char)
  | '%' :: high :: low :: rest => do
    some ((← digitOf? high) * 16 + (← digitOf? low), rest)
  | _ => none

/-- The number of further octets, and the bits of a character in its first octet. -/
def leadingOctet? (octet : Nat) : Option (Nat × Nat) :=
  if octet < 0x80 then some (0, octet)
  else if octet < 0xC0 then none
  else if octet < 0xE0 then some (1, octet - 0xC0)
  else if octet < 0xF0 then some (2, octet - 0xE0)
  else if octet < 0xF8 then some (3, octet - 0xF0)
  else none

/-- The code of a character from bits that are read and its further octets. -/
def furtherOctets? (code : Nat) : Nat → List Char → Option Nat
  | 0, _ => some code
  | count + 1, text => do
    let (octet, rest) ← octet? text
    if 0x80 ≤ octet && octet < 0xC0 then furtherOctets? (code * 64 + (octet - 0x80)) count rest
    else none

/-- The character of escaped octets, and the number of characters that write it.  Octets that
encode none count as a replacement character. -/
def escapedChar? (text : List Char) : Option (Char × Nat) := do
  let (octet, rest) ← octet? text
  let (count, bits) ← leadingOctet? octet
  let code ← furtherOctets? bits count rest
  let least := match count with
    | 0 => 0
    | 1 => 0x80
    | 2 => 0x800
    | _ => 0x10000
  let c := if code.isValidChar && least ≤ code then Char.ofNat code else Char.ofNat 0xFFFD
  some (c, 3 * (count + 1))

/-! ## Written tags -/

/-- The characters of a tag, in front of those gathered before.  The latest character comes
first. -/
def tagChars? (budget : Nat) (full : Bool) (before : List Char) (cursor : Cursor) :
    Option (List Char × Cursor) :=
  match budget with
  | 0 => none
  | budget + 1 =>
    match cursor.peek? with
    | none => some (before, cursor)
    | some c =>
      if c == '%' then
        (escapedChar? cursor.text).bind fun (c, count) =>
          tagChars? budget full (c :: before) (cursor.skip count)
      else if isTagChar full c then tagChars? budget full (c :: before) (cursor.skip 1)
      else some (before, cursor)

/-- Part of a tag behind a head that is read, and the place behind it.  A character that ends
texts ends it. -/
def tagPart? (budget : Nat) (full : Bool) (head : List Char) (cursor : Cursor) :
    Option (List Char × Cursor) := do
  let (reversed, rest) ← tagChars? budget full [] cursor
  some ((head ++ reversed.reverse).takeWhile (· != Char.ofNat 0), rest)

/-- A handle: a sign, and a name with another sign behind it. -/
def tagHandle? (cursor : Cursor) : Option (List Char × Cursor) :=
  if cursor.peek? == some '!' then
    let (name, rest) := (cursor.skip 1).span isNameChar
    if rest.peek? == some '!' then some ('!' :: name ++ ['!'], rest.skip 1)
    else some ('!' :: name, rest)
  else none

/-- The handle ends with a sign of its own. -/
def isClosedHandle (handle : List Char) : Bool :=
  1 < handle.length && handle.getLast? == some '!'

def fullTag? (budget : Nat) (cursor : Cursor) : Option (TagText × Cursor) := do
  let (suffix, rest) ← tagPart? budget true [] cursor
  if cursor.column < rest.column && rest.peek? == some '>' then
    some (⟨[], suffix⟩, rest.skip 1)
  else none

/-- A tag with a handle.  A handle without a sign of its own begins the suffix, and a sign
alone is a tag in full. -/
def shortTag? (budget : Nat) (cursor : Cursor) : Option (TagText × Cursor) := do
  let (handle, behind) ← tagHandle? cursor
  if isClosedHandle handle then do
    let (suffix, rest) ← tagPart? budget false [] behind
    if behind.column < rest.column then some (⟨handle, suffix⟩, rest) else none
  else do
    let (suffix, rest) ← tagPart? budget false (handle.drop 1) behind
    some (if suffix.isEmpty then ⟨[], ['!']⟩ else ⟨['!'], suffix⟩, rest)

/-- A tag at a cursor.  A gap must follow it, or a comma in flow style. -/
def tag? (budget : Nat) (flow : Bool) (cursor : Cursor) : Option (TagText × Cursor) := do
  let (tag, rest) ←
    if (cursor.skip 1).peek? == some '<' then fullTag? budget (cursor.skip 2)
    else shortTag? budget cursor
  if atGap rest.text || (flow && rest.peek? == some ',') then some (tag, rest) else none

/-! ## Handles -/

def coreAuthority : List Char :=
  "tag:yaml.org,2002:".toList

def coreTag (name : String) : String :=
  String.ofList coreAuthority ++ name

/-- Handles and the begins of tags that they stand for. -/
abbrev Handles := List (List Char × List Char)

def Handles.standard : Handles :=
  [(['!'], ['!']), (['!', '!'], coreAuthority)]

/-- The tag that a written one stands for.  Its handle must be known. -/
def TagText.resolve? (handles : Handles) (tag : TagText) : Option String :=
  if tag.handle.isEmpty then some (String.ofList tag.suffix)
  else (handles.find? (·.1 == tag.handle)).map fun entry =>
    String.ofList (entry.2 ++ tag.suffix)

end Yaml
end Routebook
