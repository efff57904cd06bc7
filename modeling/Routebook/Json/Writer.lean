import Routebook.Decimal
import Routebook.Json

namespace Routebook
namespace Json

/-!
# Writing JSON

A value has two texts: the compact one has no blanks outside strings, the indented one puts
every item and every field on a line of its own.  Empty arrays and objects are written
without a line break in both.
-/

/-- Numbers are positional from the fifth decimal place up to sixteen digits before the
point, and a positive exponent has a plus sign. -/
def numberStyle : NumberStyle :=
  { leastPositional := -5, firstExponential := 16, plusSign := true }

def integerText (value : Int) : List Char :=
  if value < 0 then '-' :: decimalDigits value.natAbs else decimalDigits value.natAbs

def numberText : Number → List Char
  | .integer value _ => integerText value
  | .real value => numberStyle.write value

def hexDigit (value : Nat) : Char :=
  if value < 10 then Char.ofNat (0x30 + value) else Char.ofNat (0x57 + value)

/-- The text of a character within a string.  Only the quote, the backslash and the control
characters below the space are escaped. -/
def escape (c : Char) : List Char :=
  match c with
  | '"' => ['\\', '"']
  | '\\' => ['\\', '\\']
  | '\x08' => ['\\', 'b']
  | '\x0c' => ['\\', 'f']
  | '\n' => ['\\', 'n']
  | '\r' => ['\\', 'r']
  | '\t' => ['\\', 't']
  | _ =>
    if c.toNat < 0x20 then
      ['\\', 'u', '0', '0', hexDigit (c.toNat / 16), hexDigit (c.toNat % 16)]
    else [c]

def quote (value : List Char) : List Char :=
  '"' :: value.flatMap escape ++ ['"']

mutual

def compact : Json → List Char
  | null => ['n', 'u', 'l', 'l']
  | bool true => ['t', 'r', 'u', 'e']
  | bool false => ['f', 'a', 'l', 's', 'e']
  | number value => numberText value
  | text value => quote value.toList
  | list items => '[' :: compactItems items ++ [']']
  | object fields => '{' :: compactFields fields ++ ['}']

def compactItems : List Json → List Char
  | [] => []
  | [item] => compact item
  | item :: next :: others => compact item ++ ',' :: compactItems (next :: others)

def compactFields : List (String × Json) → List Char
  | [] => []
  | [(key, value)] => quote key.toList ++ ':' :: compact value
  | (key, value) :: next :: others =>
    quote key.toList ++ ':' :: compact value ++ ',' :: compactFields (next :: others)

end

/-- A line break and two blanks for every level. -/
def lineBreak (level : Nat) : List Char :=
  '\n' :: List.replicate (2 * level) ' '

mutual

/-- The indented text of a value that begins on a line of the given level. -/
def indentedAt (level : Nat) : Json → List Char
  | null => compact null
  | bool value => compact (bool value)
  | number value => compact (number value)
  | text value => compact (text value)
  | list [] => ['[', ']']
  | list (item :: items) =>
    '[' :: indentedItems (level + 1) (item :: items) ++ lineBreak level ++ [']']
  | object [] => ['{', '}']
  | object (field :: fields) =>
    '{' :: indentedFields (level + 1) (field :: fields) ++ lineBreak level ++ ['}']

def indentedItems (level : Nat) : List Json → List Char
  | [] => []
  | [item] => lineBreak level ++ indentedAt level item
  | item :: next :: others =>
    lineBreak level ++ indentedAt level item ++ ',' :: indentedItems level (next :: others)

def indentedFields (level : Nat) : List (String × Json) → List Char
  | [] => []
  | [(key, value)] =>
    lineBreak level ++ quote key.toList ++ ':' :: ' ' :: indentedAt level value
  | (key, value) :: next :: others =>
    lineBreak level ++ quote key.toList ++ ':' :: ' ' :: indentedAt level value ++
      ',' :: indentedFields level (next :: others)

end

def toCompact (value : Json) : String :=
  String.ofList value.compact

def toIndented (value : Json) : String :=
  String.ofList (indentedAt 0 value)

end Json
end Routebook
