import Routebook.Json.Writer
import Routebook.Yaml.Cursor
import Routebook.Yaml.Scalar

namespace Routebook
namespace Yaml

/-!
# Writing YAML

A value is written in block style: an entry a line, two columns for every level, and the items
of a list at the column of its key.  A text is written without quotes if it reads back as the
same text; else in single quotes, in a literal block if it has several lines, or in double
quotes if it holds characters that the other styles cannot show.
-/

/-! ## Scalars -/

/-- Numbers are laid out as in JSON, but without a plus sign in the exponent. -/
def numberStyle : NumberStyle :=
  { Json.numberStyle with plusSign := false }

def isPrintable (c : Char) : Bool :=
  let code := c.toNat
  code == 0x0A || (0x20 ≤ code && code ≤ 0x7E) ||
    (0xA0 ≤ code && code ≤ 0xFFFD && code != 0xFEFF) || 0x10000 ≤ code

/-- A line ends with a space, the last line apart. -/
def hasSpaceBeforeBreak : List Char → Bool
  | c :: next :: rest => (c == ' ' && isBreak next) || hasSpaceBeforeBreak (next :: rest)
  | _ => false

/-- A line begins with a space, the first line apart. -/
def hasSpaceAfterBreak : List Char → Bool
  | c :: next :: rest => (isBreak c && next == ' ') || hasSpaceAfterBreak (next :: rest)
  | _ => false

/-- A plain scalar would be read as something other than the text. -/
def isAmbiguous (text : List Char) : Bool :=
  isZeroPadded text || plainValue? text != some (.text (String.ofList text))

/-- The first character makes a plain scalar something else. -/
def hasIndicator (text : List Char) : Bool :=
  match text with
  | [] => true
  | c :: rest =>
    ("#,[]{}&*!|>\"%@".toList).contains c || c == '\x27' || c == '\x60' ||
      ((c == '-' || c == '?' || c == ':') && rest.head?.all (· == ' '))

/-- A colon before a space or at the end, or a space before a number sign. -/
def hasInnerIndicator : List Char → Bool
  | [] => false
  | [c] => c == ':'
  | c :: next :: rest =>
    (c == ':' && next == ' ') || (c == ' ' && next == '#') || hasInnerIndicator (next :: rest)

/-- A plain scalar may show the text, which is on one line. -/
def allowsPlain (text : List Char) : Bool :=
  !(hasIndicator text || hasInnerIndicator text || text.any isBreak ||
    text.head? == some ' ' || text.getLast? == some ' ' ||
    Text.startsWith ['-', '-', '-'] text || Text.startsWith ['.', '.', '.'] text)

/-- Single quotes may show the text: they drop the spaces around the end of a line. -/
def allowsSingle (text : List Char) : Bool :=
  text.all isPrintable && !hasSpaceBeforeBreak text && !hasSpaceAfterBreak text

/-- A literal block may show the text, whose lines end without spaces. -/
def allowsLiteral (text : List Char) : Bool :=
  text.all isPrintable && !hasSpaceBeforeBreak text && text.getLast? != some ' '

inductive ScalarStyle where
  | plain
  | single
  | double
  | literal
  deriving DecidableEq, Repr

/-- The style of a text.  Only a line feed asks for a literal block; other ends of lines do
without. -/
def styleOf (text : List Char) : ScalarStyle :=
  if text.contains '\n' then
    if allowsLiteral text then .literal else .double
  else if !allowsSingle text then .double
  else if isAmbiguous text || !allowsPlain text then .single
  else .plain

/-- A text whose lines begin at a column, empty lines apart.  `fresh` tells that the text
begins with a new line. -/
def indented (column : Nat) (fresh : Bool) : List Char → List Char
  | [] => []
  | c :: rest =>
    if isBreak c then c :: indented column true rest
    else (if fresh then List.replicate column ' ' else []) ++ c :: indented column false rest

def singleQuoted (column : Nat) (text : List Char) : List Char :=
  let doubled := text.flatMap fun c => if c == '\x27' then ['\x27', '\x27'] else [c]
  '\x27' :: indented column false (doubled ++ ['\x27'])

/-- A capital hexadecimal number with leading zeros. -/
def hexText (width : Nat) (code : Nat) : List Char :=
  let digits := (Nat.toDigits 16 code).map Char.toUpper
  List.replicate (width - digits.length) '0' ++ digits

def doubleEscape (c : Char) : List Char :=
  match c with
  | '"' => ['\\', '"']
  | '\\' => ['\\', '\\']
  | '\n' => ['\\', 'n']
  | '\t' => ['\\', 't']
  | '\r' => ['\\', 'r']
  | _ =>
    if isPrintable c && !isBreak c then [c]
    else match c.toNat with
      | 0x00 => ['\\', '0']
      | 0x07 => ['\\', 'a']
      | 0x08 => ['\\', 'b']
      | 0x0B => ['\\', 'v']
      | 0x0C => ['\\', 'f']
      | 0x1B => ['\\', 'e']
      | 0x85 => ['\\', 'N']
      | 0x2028 => ['\\', 'L']
      | 0x2029 => ['\\', 'P']
      | code =>
        if code ≤ 0xFF then '\\' :: 'x' :: hexText 2 code else '\\' :: 'u' :: hexText 4 code

def doubleQuoted (text : List Char) : List Char :=
  '"' :: text.flatMap doubleEscape ++ ['"']

/-- The indicators of a literal block: the width of the indentation if the text begins with a
space or an empty line, and what becomes of the ends of lines at its end. -/
def literalHeader (text : List Char) : List Char :=
  let leading := text.head?.any fun c => c == ' ' || isBreak c
  let chomping :=
    match text.reverse with
    | [] => ['-']
    | last :: before =>
      if !isBreak last then ['-'] else if before.head?.all isBreak then ['+'] else []
  '|' :: (if leading then ['2'] else []) ++ chomping

def literalBlock (column : Nat) (text : List Char) : List Char :=
  literalHeader text ++ '\n' :: indented column true text

def textScalar (column : Nat) (text : List Char) : List Char :=
  match styleOf text with
  | .plain => text
  | .single => singleQuoted (column + 2) text
  | .double => doubleQuoted text
  | .literal => literalBlock (column + 2) text

/-- A scalar with the end of its line, which a literal block may hold already. -/
def closeLine (scalar : List Char) : List Char :=
  if scalar.getLast?.any isBreak then scalar else scalar ++ ['\n']

/-! ## Values -/

/-- A key of more bytes than this, or of several lines, is announced by a question mark. -/
def maxKeyLength : Nat := 128

def isSimpleKey (key : String) : Bool :=
  key.utf8ByteSize ≤ maxKeyLength && !key.toList.any isBreak

def indentation (column : Nat) : List Char :=
  List.replicate column ' '

/-- A key with the mark behind it.  An announced key has its mark on a line of its own. -/
def keyText (column : Nat) (key : String) : List Char :=
  let scalar := textScalar column key.toList
  if isSimpleKey key then scalar ++ [':']
  else '?' :: ' ' :: closeLine scalar ++ indentation column ++ [':', ' ']

def scalarNode (column : Nat) : Json → List Char
  | .bool true => "true".toList
  | .bool false => "false".toList
  | .number (.integer value _) => Json.integerText value
  | .number (.real value) => numberStyle.write value
  | .text value => textScalar column value.toList
  | .list _ => ['[', ']']
  | .object _ => ['{', '}']
  | .null => "null".toList

mutual

/-- A value in a block at a column, up to the end of its last line.  An inline value follows a
hyphen or the mark of an announced key, and a block in it begins on the same line, two columns
further; any other value follows the colon of its key, and a block in it begins on the next
line, the items of a list at the column of the key. -/
def node (inline : Bool) (column : Nat) : Json → List Char
  | .list (item :: items) =>
    let column := if inline then column + 2 else column
    (if inline then [] else '\n' :: indentation column) ++
      '-' :: ' ' :: node true column item ++ itemLines column items
  | .object ((key, value) :: fields) =>
    let column := column + 2
    (if inline then [] else '\n' :: indentation column) ++
      keyText column key ++ node (!isSimpleKey key) column value ++ entryLines column fields
  | value => (if inline then [] else [' ']) ++ closeLine (scalarNode column value)

def entryLines (column : Nat) : List (String × Json) → List Char
  | [] => []
  | (key, value) :: rest =>
    indentation column ++ keyText column key ++ node (!isSimpleKey key) column value ++
      entryLines column rest

def itemLines (column : Nat) : List Json → List Char
  | [] => []
  | item :: rest =>
    indentation column ++ '-' :: ' ' :: node true column item ++ itemLines column rest

end

def document (value : Json) : List Char :=
  match value with
  | .object fields@(_ :: _) => entryLines 0 fields
  | .list items@(_ :: _) => itemLines 0 items
  | value => closeLine (scalarNode 0 value)

end Yaml
end Routebook
