import Routebook.Text.Class

namespace Routebook
namespace Yaml

/-!
# Places in a text

A document is read from left to right.  A cursor is the text that is left together with its
line and its column, for the column of a character decides which block it belongs to.
-/

/-- A character that ends a line: a line feed, a carriage return, a next line, a line separator
or a paragraph separator. -/
def isBreak (c : Char) : Bool :=
  c == '\n' || c == '\r' || c.toNat == 0x85 || c.toNat == 0x2028 || c.toNat == 0x2029

/-- A blank within a line. -/
def isBlank (c : Char) : Bool :=
  c == ' ' || c == '\t'

/-- The text is at its end, at a blank or at the end of a line. -/
def atGap (text : List Char) : Bool :=
  text.head?.all fun c => isBlank c || isBreak c

def atLineEnd (text : List Char) : Bool :=
  text.head?.all isBreak

def byteOrderMark : Char :=
  Char.ofNat 0xFEFF

def isAllowed (c : Char) : Bool :=
  let code := c.toNat
  code == 0x09 || code == 0x0A || code == 0x0D || (0x20 ≤ code && code ≤ 0x7E) ||
    code == 0x85 || (0xA0 ≤ code && code ≤ 0xFFFD) || 0x10000 ≤ code

/-- Line breaks of older systems as line feeds.  Separators of lines and paragraphs stay what
they are. -/
def normalizeBreaks : List Char → List Char
  | [] => []
  | '\r' :: '\n' :: rest => '\n' :: normalizeBreaks rest
  | c :: rest =>
    (if c == '\r' || c.toNat == 0x85 then '\n' else c) :: normalizeBreaks rest

/-- The text that is left, with its line and its column. -/
structure Cursor where
  text : List Char
  line : Nat
  column : Nat

namespace Cursor

def ofText (text : List Char) : Cursor :=
  ⟨text, 0, 0⟩

def peek? (cursor : Cursor) : Option Char :=
  cursor.text.head?

def skip (count : Nat) (cursor : Cursor) : Cursor :=
  { cursor with text := cursor.text.drop count, column := cursor.column + count }

/-- Pass over the end of the line, if the cursor stands there. -/
def nextLine (cursor : Cursor) : Cursor :=
  match cursor.text with
  | c :: rest => if isBreak c then ⟨rest, cursor.line + 1, 0⟩ else cursor
  | [] => cursor

/-- The characters of the line up to the first that fails a test, and the place behind them. -/
def span (test : Char → Bool) (cursor : Cursor) : List Char × Cursor :=
  let within (c : Char) : Bool := test c && !isBreak c
  let taken := cursor.text.takeWhile within
  (taken, ⟨cursor.text.dropWhile within, cursor.line, cursor.column + taken.length⟩)

def skipBlanks (cursor : Cursor) : Cursor :=
  (cursor.span isBlank).2

/-- Pass over blanks, a comment and the end of the line.  Nothing else may stand there. -/
def finishLine? (cursor : Cursor) : Option Cursor :=
  let cursor := cursor.skipBlanks
  let cursor := if cursor.peek? == some '#' then (cursor.span fun _ => true).2 else cursor
  if atLineEnd cursor.text then some cursor.nextLine else none

/-- The cursor stands at the begin of a line, at three signs and a gap. -/
def atMark (sign : Char) (cursor : Cursor) : Bool :=
  cursor.column == 0 && cursor.text.take 3 == [sign, sign, sign] && atGap (cursor.text.drop 3)

def atDocumentMark (cursor : Cursor) : Bool :=
  cursor.atMark '-' || cursor.atMark '.'

end Cursor

/-! ## Gaps between tokens -/

/-- Pass over blanks, comments and ends of lines in front of a token.  `fresh` tells that the
key of an entry of a block may begin there, which it always may at the begin of a line of a
block; the result tells whether it may in the end.  Where it may, a tab is no blank.  A byte
order mark may begin a line. -/
def skipGap (flow fresh comment : Bool) (line column : Nat) : List Char → Bool × Cursor
  | [] => (fresh, ⟨[], line, column⟩)
  | c :: rest =>
    if isBreak c then skipGap flow (fresh || !flow) false (line + 1) 0 rest
    else
      let passed := comment || c == ' ' || (c == '\t' && (flow || !fresh)) ||
        (c == byteOrderMark && column == 0)
      if passed then skipGap flow fresh comment line (column + 1) rest
      else if c == '#' then skipGap flow fresh true line (column + 1) rest
      else (fresh, ⟨c :: rest, line, column⟩)

/-! ## Gaps within scalars -/

/-- Blanks and ends of lines within a scalar, the latest ones first.  Once a line has ended, the
blanks count no more. -/
structure Gap where
  blanks : List Char
  breaks : List Char
  /-- The end of a line in front of the gap is escaped. -/
  joined : Bool

namespace Gap

def empty : Gap :=
  ⟨[], [], false⟩

def broken (gap : Gap) : Bool :=
  gap.joined || !gap.breaks.isEmpty

/-- What the gap stands for: its blanks, or else the ends of the lines.  A line feed that is
the first of several is dropped, and one that is alone is a space. -/
def text (gap : Gap) : List Char :=
  if !gap.broken then gap.blanks.reverse
  else if gap.joined then gap.breaks.reverse
  else match gap.breaks.reverse with
    | ['\n'] => [' ']
    | '\n' :: further => further
    | breaks => breaks

end Gap

/-- Read a gap within a scalar.  No tab may stand in front of the column that indents the
further lines of the scalar. -/
def takeGap? (indent : Nat) (gap : Gap) (line column : Nat) : List Char → Option (Gap × Cursor)
  | [] => some (gap, ⟨[], line, column⟩)
  | c :: rest =>
    if isBreak c then
      takeGap? indent { gap with blanks := [], breaks := c :: gap.breaks } (line + 1) 0 rest
    else if isBlank c then
      if !gap.broken then
        takeGap? indent { gap with blanks := c :: gap.blanks } line (column + 1) rest
      else if c == '\t' && column < indent then none
      else takeGap? indent gap line (column + 1) rest
    else some (gap, ⟨c :: rest, line, column⟩)

def Cursor.takeGap? (indent : Nat) (joined : Bool) (cursor : Cursor) : Option (Gap × Cursor) :=
  Yaml.takeGap? indent ⟨[], [], joined⟩ cursor.line cursor.column cursor.text

end Yaml
end Routebook
