import Routebook.Yaml.Cursor
import Routebook.Yaml.Scalar

namespace Routebook
namespace Yaml

/-!
# The texts of scalars

A scalar is written without quotes, in quotes of two kinds, or as a block of lines.  Each
function here starts behind the sign that announces the scalar, if it has one, and answers the
text that the scalar stands for with the place behind the scalar.  Texts are gathered with
the latest character first.  A budget is lowered with every character, or more rarely; one
above the length of the text that is left never runs out.
-/

/-! ## Plain scalars -/

/-- How a plain scalar is laid out: in flow style or in block style, and how many columns
indent its further lines at least. -/
structure Layout where
  flow : Bool
  indent : Nat

/-- The characters of a plain scalar up to a gap or its end, in front of those gathered
before.  A colon in front of a gap ends it, and in flow style a sign of a collection; a colon
directly in front of such a sign is refused. -/
def plainWord? (flow : Bool) (word : List Char) : List Char → Option (List Char × List Char)
  | [] => some (word, [])
  | c :: rest =>
    if isBlank c || isBreak c then some (word, c :: rest)
    else if flow && c == ':' && rest.head?.any [',', '?', '[', ']', '{', '}'].contains then none
    else if (c == ':' && atGap rest) || (flow && [',', '[', ']', '{', '}'].contains c) then
      some (word, c :: rest)
    else plainWord? flow (c :: word) rest

/-- The rest of a plain scalar behind a text and a gap.  The result tells whether the last
gap, which is passed over, has ended a line. -/
def plainText? (budget : Nat) (layout : Layout) (text : List Char) (gap : Gap) (cursor : Cursor) :
    Option (List Char × Bool × Cursor) :=
  match budget with
  | 0 => none
  | budget + 1 =>
    if cursor.atDocumentMark || cursor.peek? == some '#' then
      some (text.reverse, gap.broken, cursor)
    else
      match plainWord? layout.flow [] cursor.text with
      | none => none
      | some ([], _) => some (text.reverse, gap.broken, cursor)
      | some (word, rest) =>
        let text := word ++ gap.text.reverse ++ text
        let cursor : Cursor := ⟨rest, cursor.line, cursor.column + word.length⟩
        if !atGap rest || rest.isEmpty then some (text.reverse, false, cursor)
        else
          match cursor.takeGap? layout.indent false with
          | none => none
          | some (gap, cursor) =>
            if !layout.flow && cursor.column < layout.indent then
              some (text.reverse, gap.broken, cursor)
            else plainText? budget layout text gap cursor

def plainScalar? (budget : Nat) (layout : Layout) (cursor : Cursor) :
    Option (List Char × Bool × Cursor) :=
  plainText? budget layout [] .empty cursor

def beginsPlain (flow : Bool) (text : List Char) : Bool :=
  match text with
  | [] => false
  | c :: rest =>
    if c == '-' then !atGap rest
    else if c == '?' || c == ':' then !flow && !atGap rest
    else !(isBlank c || isBreak c ||
      [',', '[', ']', '{', '}', '#', '&', '*', '!', '|', '>', '\x27', '"', '%', '@',
        '\x60'].contains c)

/-! ## Scalars in quotes -/

def namedEscape? (letter : Char) : Option Char :=
  match letter with
  | '0' => some (Char.ofNat 0)
  | 'a' => some (Char.ofNat 0x07)
  | 'b' => some (Char.ofNat 0x08)
  | 't' | '\t' => some '\t'
  | 'n' => some '\n'
  | 'v' => some (Char.ofNat 0x0B)
  | 'f' => some (Char.ofNat 0x0C)
  | 'r' => some '\r'
  | 'e' => some (Char.ofNat 0x1B)
  | ' ' => some ' '
  | '"' => some '"'
  | '/' => some '/'
  | '\\' => some '\\'
  | 'N' => some (Char.ofNat 0x85)
  | '_' => some (Char.ofNat 0xA0)
  | 'L' => some (Char.ofNat 0x2028)
  | 'P' => some (Char.ofNat 0x2029)
  | _ => none

/-- The number of hexadecimal digits of an escape by code point. -/
def escapeLength? (letter : Char) : Option Nat :=
  match letter with
  | 'x' => some 2
  | 'u' => some 4
  | 'U' => some 8
  | _ => none

/-- The character of an escape behind its sign, and the number of characters that write it.  No
escape stands for a surrogate or a number beyond the last code point. -/
def escape? (text : List Char) : Option (Char × Nat) :=
  match text with
  | [] => none
  | letter :: rest =>
    match escapeLength? letter with
    | none => (namedEscape? letter).map fun c => (c, 1)
    | some count =>
      let digits := rest.take count
      if digits.length < count then none
      else (naturalIn? 16 digits).bind fun code =>
        if code.isValidChar then some (Char.ofNat code, count + 1) else none

/-- The characters of a scalar in quotes up to a gap or its closing quote, in front of those
gathered before.  A quote in single quotes is written twice.  The result tells whether an
escaped end of a line was the last of it. -/
def quotedWord? (budget : Nat) (quote : Char) (word : List Char) (cursor : Cursor) :
    Option (List Char × Bool × Cursor) :=
  match budget with
  | 0 => none
  | budget + 1 =>
    match cursor.text with
    | [] => some (word, false, cursor)
    | c :: rest =>
      if isBlank c || isBreak c then some (word, false, cursor)
      else if c == quote then
        if quote == '\x27' && rest.head? == some quote then
          quotedWord? budget quote (quote :: word) (cursor.skip 2)
        else some (word, false, cursor)
      else if quote == '"' && c == '\\' then
        if rest.head?.any isBreak then some (word, true, (cursor.skip 1).nextLine)
        else match escape? rest with
          | some (c, count) => quotedWord? budget quote (c :: word) (cursor.skip (count + 1))
          | none => none
      else quotedWord? budget quote (c :: word) (cursor.skip 1)

/-- The rest of a scalar in quotes behind a text.  No mark of a document may stand in it. -/
def quotedText? (budget : Nat) (quote : Char) (text : List Char) (cursor : Cursor) :
    Option (List Char × Cursor) :=
  match budget with
  | 0 => none
  | budget + 1 =>
    if cursor.atDocumentMark || cursor.text.isEmpty then none
    else
      match quotedWord? (budget + 1) quote text cursor with
      | none => none
      | some (text, joined, cursor) =>
        if cursor.peek? == some quote then some (text.reverse, cursor.skip 1)
        else
          match cursor.takeGap? 0 joined with
          | none => none
          | some (gap, cursor) => quotedText? budget quote (gap.text.reverse ++ text) cursor

def quotedScalar? (budget : Nat) (quote : Char) (cursor : Cursor) :
    Option (List Char × Cursor) :=
  quotedText? budget quote [] cursor

/-! ## Block scalars -/

/-- What happens to the ends of lines at the end of a block scalar. -/
inductive Chomping where
  | strip
  | clip
  | keep
  deriving DecidableEq, Repr

def Chomping.ofSign? : Option Char → Option Chomping
  | some '-' => some .strip
  | some '+' => some .keep
  | _ => none

/-- The indicators of a block scalar: chomping and a number of columns, in either order.  No
result means that the number is zero. -/
def blockIndicators? (cursor : Cursor) : Option (Chomping × Option Nat × Cursor) :=
  let digit? (cursor : Cursor) : Option Nat :=
    (cursor.peek?.filter Text.isDigit).map Text.digitValue
  let (chomping, rest) := match Chomping.ofSign? cursor.peek? with
    | some chomping => (some chomping, cursor.skip 1)
    | none => (none, cursor)
  match digit? rest with
  | some 0 => none
  | none => some (chomping.getD .clip, none, rest)
  | some count =>
    let rest := rest.skip 1
    match chomping, Chomping.ofSign? rest.peek? with
    | some chomping, _ => some (chomping, some count, rest)
    | none, some chomping => some (chomping, some count, rest.skip 1)
    | none, none => some (.clip, some count, rest)

/-- Indentation and empty lines in front of a line of a block scalar: the ends of the empty
lines, the widest indentation seen, and the place behind the indentation.  Spaces up to the
column `indent` are indentation, all of them while the column is not known. -/
def blockBreaks? (indent : Option Nat) (breaks : List Char) (widest line column : Nat) :
    List Char → Option (List Char × Nat × Cursor)
  | [] => some (breaks, max widest column, ⟨[], line, column⟩)
  | c :: rest =>
    let within := indent.all (column < ·)
    if c == ' ' && within then blockBreaks? indent breaks widest line (column + 1) rest
    else if c == '\t' && within then none
    else if isBreak c then
      blockBreaks? indent (c :: breaks) (max widest column) (line + 1) 0 rest
    else some (breaks, max widest column, ⟨c :: rest, line, column⟩)

/-- The ends of lines between two lines of a block scalar.  Between lines of a folded scalar
that do not begin with a blank, a line feed is a space, or nothing before empty lines. -/
def blockJoint (literal : Bool) (ending : Option Char) (empties : List Char) (blank : Bool) :
    List Char :=
  let first :=
    if !literal && ending == some '\n' && !blank then (if empties.isEmpty then [' '] else [])
    else ending.toList
  first ++ empties.reverse

/-- The lines of a block scalar at a column.  `ending` is the end of the line before, `empties`
the ends of the empty lines behind it, and `blank` tells that the line begins with a blank. -/
def blockText? (budget : Nat) (literal : Bool) (chomping : Chomping) (indent : Nat)
    (text : List Char) (ending : Option Char) (empties : List Char) (blank : Bool)
    (cursor : Cursor) : Option (List Char × Cursor) :=
  match budget with
  | 0 => none
  | budget + 1 =>
    if cursor.column != indent || cursor.text.isEmpty then
      let tail := (if chomping == .strip then [] else ending.toList) ++
        (if chomping == .keep then empties.reverse else [])
      some (text.reverse ++ tail, cursor)
    else
      let beginsBlank := cursor.peek?.any isBlank
      let joint := blockJoint literal ending empties (blank || beginsBlank)
      let (line, behind) := cursor.span fun _ => true
      let next := behind.nextLine
      match blockBreaks? (some indent) [] 0 next.line next.column next.text with
      | none => none
      | some (empties, _, cursor) =>
        blockText? budget literal chomping indent (line.reverse ++ joint.reverse ++ text)
          behind.peek? empties beginsBlank cursor

/-- A block scalar behind its sign, within a block of the given indentation.  Where no number of
columns is given, the widest indentation in front of the first line counts, and at least one
column more than the block has. -/
def blockScalar? (budget : Nat) (literal : Bool) (outer : Int) (cursor : Cursor) :
    Option (List Char × Cursor) := do
  let (chomping, count, cursor) ← blockIndicators? cursor
  let start ← cursor.finishLine?
  let known := count.map (outer.toNat + ·)
  let (empties, widest, cursor) ← blockBreaks? known [] 0 start.line start.column start.text
  let indent := known.getD (max (max widest (outer + 1).toNat) 1)
  blockText? budget literal chomping indent [] none empties false cursor

end Yaml
end Routebook
