import Routebook.Yaml.ScalarText
import Routebook.Yaml.Token

namespace Routebook
namespace Yaml

/-!
# From text to tokens

The lexer reads a token at a time and keeps track of the columns of the blocks that are open.
A key shows itself only by the colon behind it, so the lexer remembers for every level of
nesting where a key may have begun, and puts the token of the key there when the colon comes.
A text that breaks the rules of the tokens has none.
-/

/-- Where a key may have begun. -/
structure PossibleKey where
  /-- The number of tokens in front of it. -/
  number : Nat
  line : Nat
  column : Nat
  /-- Nothing but a key can stand there. -/
  required : Bool

/-- A key is at most this far from its colon. -/
def maxKeyDistance : Nat := 1024

/-- What is known of the text read so far. -/
structure Lexer where
  cursor : Cursor
  /-- The column of the innermost block, or minus one outside of all blocks. -/
  indent : Int
  /-- The columns of the blocks around it, the innermost one first. -/
  outer : List Int
  /-- Where a key of the innermost level may have begun. -/
  key : Option PossibleKey
  /-- The same for the levels around a collection of flow style, the innermost one first. -/
  levels : List (Option PossibleKey)
  /-- A key may begin here. -/
  fresh : Bool
  /-- The tokens, the latest one first. -/
  tokens : List Token
  count : Nat

namespace Lexer

def start (text : List Char) : Lexer :=
  ⟨.ofText text, -1, [], none, [], true, [], 0⟩

def inFlow (lexer : Lexer) : Bool :=
  !lexer.levels.isEmpty

def emit (token : Token) (lexer : Lexer) : Lexer :=
  { lexer with tokens := token :: lexer.tokens, count := lexer.count + 1 }

/-- Add a token behind the first ones. -/
def insert (number : Nat) (token : Token) (lexer : Lexer) : Lexer :=
  let later := lexer.count - number
  { lexer with
    tokens := lexer.tokens.take later ++ token :: lexer.tokens.drop later
    count := lexer.count + 1 }

def pass (count : Nat) (lexer : Lexer) : Lexer :=
  { lexer with cursor := lexer.cursor.skip count }

/-! ## Blocks -/

/-- Open a block at a column that is deeper than the innermost block.  Its token goes behind
the first ones. -/
def openBlock (column number : Nat) (token : Token) (lexer : Lexer) : Lexer :=
  if lexer.inFlow || (column : Int) ≤ lexer.indent then lexer
  else { lexer with indent := column, outer := lexer.indent :: lexer.outer }.insert number token

/-- The blocks that end in front of a column: their number, and the blocks that are left. -/
def endedBlocks (column indent : Int) : List Int → Nat × Int × List Int
  | [] => (0, indent, [])
  | next :: rest =>
    if column < indent then
      let (count, indent, outer) := endedBlocks column next rest
      (count + 1, indent, outer)
    else (0, indent, next :: rest)

def closeBlocks (column : Int) (lexer : Lexer) : Lexer :=
  if lexer.inFlow then lexer
  else
    let (count, indent, outer) := endedBlocks column lexer.indent lexer.outer
    { lexer with
      indent := indent
      outer := outer
      tokens := List.replicate count .blockEnd ++ lexer.tokens
      count := lexer.count + count }

/-! ## Keys -/

/-- Give up a key that did not come.  One that is required must come. -/
def forgetKey? (lexer : Lexer) : Option Lexer :=
  if lexer.key.any (·.required) then none else some { lexer with key := none }

/-- Remember that a key may begin here. -/
def noteKey? (lexer : Lexer) : Option Lexer :=
  if lexer.fresh then
    lexer.forgetKey?.map fun lexer =>
      let cursor := lexer.cursor
      { lexer with key := some {
          number := lexer.count
          line := cursor.line
          column := cursor.column
          required := !lexer.inFlow && lexer.indent == cursor.column } }
  else some lexer

/-- A key that may still come, or no result if it is required and cannot come. -/
def stillPossible? (cursor : Cursor) (key : Option PossibleKey) : Option (Option PossibleKey) :=
  match key with
  | none => some none
  | some place =>
    if place.line < cursor.line || place.column + maxKeyDistance < cursor.column then
      if place.required then none else some none
    else some key

/-- Give up the keys that cannot come.  A key stands on one line with its colon. -/
def expireKeys? (lexer : Lexer) : Option Lexer := do
  let key ← stillPossible? lexer.cursor lexer.key
  let levels ← lexer.levels.mapM (stillPossible? lexer.cursor)
  some { lexer with key := key, levels := levels }

/-! ## Tokens -/

/-- Pass over the gap in front of a token, and close the blocks that end there. -/
def advance? (lexer : Lexer) : Option Lexer := do
  let cursor := lexer.cursor
  let (fresh, cursor) :=
    skipGap lexer.inFlow lexer.fresh false cursor.line cursor.column cursor.text
  let lexer ← { lexer with fresh := fresh, cursor := cursor }.expireKeys?
  some (lexer.closeBlocks cursor.column)

/-- Read the sign that begins a collection of flow style.  The collection may be a key. -/
def beginFlow? (token : Token) (lexer : Lexer) : Option Lexer := do
  let lexer ← lexer.noteKey?
  some ({ lexer with key := none, levels := lexer.key :: lexer.levels, fresh := true }.pass
    1 |>.emit token)

def endFlow? (token : Token) (lexer : Lexer) : Option Lexer := do
  let lexer ← lexer.forgetKey?
  let lexer := match lexer.levels with
    | key :: levels => { lexer with key := key, levels := levels }
    | [] => lexer
  some ({ lexer with fresh := false }.pass 1 |>.emit token)

def readComma? (lexer : Lexer) : Option Lexer := do
  let lexer ← lexer.forgetKey?
  some ({ lexer with fresh := true }.pass 1 |>.emit .flowEntry)

def readHyphen? (lexer : Lexer) : Option Lexer := do
  if !lexer.inFlow && !lexer.fresh then none
  else do
    let lexer ← (lexer.openBlock lexer.cursor.column lexer.count .blockListStart).forgetKey?
    some ({ lexer with fresh := true }.pass 1 |>.emit .blockEntry)

def readQuestion? (lexer : Lexer) : Option Lexer := do
  if !lexer.inFlow && !lexer.fresh then none
  else do
    let lexer ← (lexer.openBlock lexer.cursor.column lexer.count .blockMappingStart).forgetKey?
    some ({ lexer with fresh := !lexer.inFlow }.pass 1 |>.emit .key)

/-- Read a colon.  If a key may stand in front of it, it is one. -/
def readColon? (lexer : Lexer) : Option Lexer :=
  match lexer.key with
  | some place =>
    let lexer := (lexer.insert place.number .key).openBlock place.column place.number
      .blockMappingStart
    some ({ lexer with key := none, fresh := false }.pass 1 |>.emit .value)
  | none =>
    if !lexer.inFlow && !lexer.fresh then none
    else
      let lexer := lexer.openBlock lexer.cursor.column lexer.count .blockMappingStart
      some ({ lexer with fresh := !lexer.inFlow }.pass 1 |>.emit .value)

def name? (cursor : Cursor) : Option (List Char × Cursor) :=
  let (name, rest) := cursor.span isNameChar
  let ends := atGap rest.text ||
    rest.peek?.any ['?', ':', ',', ']', '}', '%', '@', '\x60'].contains
  if !name.isEmpty && ends then some (name, rest) else none

def readName? (token : List Char → Token) (lexer : Lexer) : Option Lexer := do
  let lexer ← lexer.noteKey?
  let (name, rest) ← name? (lexer.cursor.skip 1)
  some ({ lexer with fresh := false, cursor := rest }.emit (token name))

def readTag? (budget : Nat) (lexer : Lexer) : Option Lexer := do
  let lexer ← lexer.noteKey?
  let (tag, rest) ← tag? budget lexer.inFlow lexer.cursor
  some ({ lexer with fresh := false, cursor := rest }.emit (.tag tag))

def readBlock? (budget : Nat) (literal : Bool) (lexer : Lexer) : Option Lexer := do
  let lexer ← lexer.forgetKey?
  let (text, rest) ← blockScalar? budget literal lexer.indent (lexer.cursor.skip 1)
  let form := if literal then .literal else .quoted
  some ({ lexer with fresh := true, cursor := rest }.emit (.scalar form text))

def readQuoted? (budget : Nat) (quote : Char) (lexer : Lexer) : Option Lexer := do
  let lexer ← lexer.noteKey?
  let (text, rest) ← quotedScalar? budget quote (lexer.cursor.skip 1)
  some ({ lexer with fresh := false, cursor := rest }.emit (.scalar .quoted text))

/-- Read a plain scalar.  If a line has ended behind it, a key may follow. -/
def readPlain? (budget : Nat) (lexer : Lexer) : Option Lexer := do
  let lexer ← lexer.noteKey?
  let (text, broken, rest) ←
    plainScalar? budget ⟨lexer.inFlow, (lexer.indent + 1).toNat⟩ lexer.cursor
  some ({ lexer with fresh := broken, cursor := rest }.emit (.scalar .plain text))

/-! ## Directives and marks -/

def maxVersionDigits : Nat := 9

def versionNumber? (cursor : Cursor) : Option (Nat × Cursor) :=
  let (digits, rest) := cursor.span Text.isDigit
  if digits.isEmpty || maxVersionDigits < digits.length then none
  else some (Text.naturalOf 10 (digits.map Text.digitValue), rest)

def versionDirective? (cursor : Cursor) : Option (Token × Cursor) := do
  let (major, rest) ← versionNumber? cursor.skipBlanks
  if rest.peek? == some '.' then
    let (minor, rest) ← versionNumber? (rest.skip 1)
    some (.version major minor, rest)
  else none

def handleDirective? (budget : Nat) (cursor : Cursor) : Option (Token × Cursor) := do
  let (name, behind) ← tagHandle? cursor.skipBlanks
  if (name == ['!'] || isClosedHandle name) && behind.peek?.any isBlank then
    let behind := behind.skipBlanks
    let (start, rest) ← tagPart? budget true [] behind
    if behind.column < rest.column && atGap rest.text then
      some (.handle name start, rest)
    else none
  else none

/-- Close all blocks and give up the key, at the begin or the end of a document. -/
def leaveBlocks? (lexer : Lexer) : Option Lexer := do
  let lexer ← (lexer.closeBlocks (-1)).forgetKey?
  some { lexer with fresh := false }

/-- Read a directive.  It has its line for itself. -/
def readDirective? (budget : Nat) (lexer : Lexer) : Option Lexer := do
  let lexer ← lexer.leaveBlocks?
  let (name, behind) := (lexer.cursor.skip 1).span isNameChar
  let (token, rest) ←
    match String.ofList name with
    | "YAML" => if atGap behind.text then versionDirective? behind else none
    | "TAG" => if atGap behind.text then handleDirective? budget behind else none
    | _ => none
  some ({ lexer with cursor := ← rest.finishLine? }.emit token)

def readMark? (token : Token) (lexer : Lexer) : Option Lexer := do
  let lexer ← lexer.leaveBlocks?
  some (lexer.pass 3 |>.emit token)

/-- Read the token that begins with a character.  The budget is for the characters of a
token. -/
def read? (budget : Nat) (lexer : Lexer) (c : Char) (rest : List Char) : Option Lexer :=
  if lexer.cursor.column == 0 && c == '%' then lexer.readDirective? budget
  else if lexer.cursor.atMark '-' then lexer.readMark? .documentStart
  else if lexer.cursor.atMark '.' then lexer.readMark? .documentEnd
  else match c with
    | '[' => lexer.beginFlow? .flowListStart
    | '{' => lexer.beginFlow? .flowMappingStart
    | ']' => lexer.endFlow? .flowListEnd
    | '}' => lexer.endFlow? .flowMappingEnd
    | ',' => lexer.readComma?
    | '*' => lexer.readName? .aliasOf
    | '&' => lexer.readName? .anchor
    | '!' => lexer.readTag? budget
    | '"' => lexer.readQuoted? budget '"'
    | '\x27' => lexer.readQuoted? budget '\x27'
    | _ =>
      if c == '-' && atGap rest then lexer.readHyphen?
      else if c == '?' && (lexer.inFlow || atGap rest) then lexer.readQuestion?
      else if c == ':' && (lexer.inFlow || atGap rest) then lexer.readColon?
      else if c == '|' && !lexer.inFlow then lexer.readBlock? budget true
      else if c == '>' && !lexer.inFlow then lexer.readBlock? budget false
      else if beginsPlain lexer.inFlow (c :: rest) then lexer.readPlain? budget
      else none

/-- Read tokens up to the end of the text.  Every token but those of blocks takes a character,
so a budget above the length of the text never runs out. -/
def run (budget : Nat) (lexer : Lexer) : Option (List Token) :=
  match budget with
  | 0 => none
  | budget + 1 =>
    match lexer.advance? with
    | none => none
    | some lexer =>
      match lexer.cursor.text with
      | [] => lexer.leaveBlocks?.map fun lexer => lexer.tokens.reverse
      | c :: rest =>
        match lexer.read? (budget + 1) c rest with
        | none => none
        | some lexer => run budget lexer

end Lexer

def tokens? (text : List Char) : Option (List Token) :=
  if text.all isAllowed then
    let text := normalizeBreaks text
    (Lexer.start text).run (text.length + 1)
  else none

end Yaml
end Routebook
