import Routebook.Source.ModelText

namespace Routebook

/-!
# Comment blocks

The annotations of an action stand in a comment block of its controller.  A block names its
action in its first line, or documents the method that is declared right below it.  A block
that does neither is dropped.
-/

/-- A comment block and the action it documents. -/
structure CommentBlock where
  action : String
  /-- The lines that are not empty, trimmed and without the star in front. -/
  lines : List String
  deriving DecidableEq, Repr

namespace CommentBlock

/-! ## Methods -/

/-- The words that may precede the name of a method. -/
def modifiers : List String :=
  ["public", "private", "protected", "static", "async", "override"]

/-- Keywords that look like the name of a method. -/
def reserved : List String :=
  ["if", "for", "while", "switch", "function"]

/-- The first character of the name of a method, of ASCII. -/
def isMethodStart (c : Char) : Bool :=
  c.isAlpha || c == '_' || c == '$'

def isMethodChar (c : Char) : Bool :=
  Text.isWord c || c == '$'

/-- The text behind type parameters, if it begins with some. -/
def skipTypeParameters (text : List Char) : List Char :=
  match text with
  | '<' :: rest =>
    match Text.cutAt? '>' rest with
    | some (_, after) => after
    | none => text
  | _ => text

/-- The name at the start of a text, if type parameters and an opening parenthesis may follow
and an opening parenthesis does. -/
def calledName? (text : List Char) : Option String :=
  match text with
  | [] => none
  | c :: rest =>
    if isMethodStart c then
      let name := c :: rest.takeWhile isMethodChar
      let behind := Text.trimStart (rest.dropWhile isMethodChar)
      if (Text.trimStart (skipTypeParameters behind)).head? == some '(' then
        some (String.ofList name)
      else none
    else none

def afterModifier? (text : List Char) : Option (List Char) :=
  modifiers.findSome? fun modifier => afterKeyword? modifier text

/-- The name of the method that a line declares.  A modifier is one only if a name follows,
so that a method may be called like a modifier.  At most `budget` modifiers are read. -/
def methodName? (budget : Nat) (line : List Char) : Option String :=
  match budget with
  | 0 => calledName? line
  | budget + 1 =>
    match (afterModifier? line).bind (methodName? budget) with
    | some name => some name
    | none => calledName? line

/-- The name of the method that the first line of a text declares, blank lines apart. -/
def followingMethod? (text : List Char) : Option String := do
  let line := Text.trimEnd ((Text.trimStart text).takeWhile (· != '\n'))
  let name ← methodName? line.length line
  if reserved.contains name then none else some name

/-! ## Blocks -/

/-- A line of a comment without blanks around it and without the star in front. -/
def cleanLine (line : List Char) : List Char :=
  let line := Text.trim line
  Text.trim ((Text.stripStart? ['*'] line).getD line)

def cleanLines (body : List Char) : List (List Char) :=
  ((Text.lines body).map cleanLine).filter (!·.isEmpty)

/-- A line that names the action of its block: an at sign and no blanks. -/
def isActionLine (line : List Char) : Bool :=
  Text.startsWith ['@'] line && !line.any Text.isBlank

def of? (body after : List Char) : Option CommentBlock :=
  let named (action : String) (lines : List (List Char)) : CommentBlock :=
    ⟨action, lines.map String.ofList⟩
  match cleanLines body with
  | first :: others =>
    if isActionLine first then
      some (named (String.ofList (Text.trimStartWhere (· == '@') first)) others)
    else (followingMethod? after).map (named · (first :: others))
  | [] => (followingMethod? after).map (named · [])

end CommentBlock

theorem length_lt_of_comment {source before rest body after : List Char}
    (opened : Text.cut? ['/', '*', '*'] source = some (before, rest))
    (closed : Text.cut? ['*', '/'] rest = some (body, after)) : after.length < source.length := by
  have outer := congrArg List.length (Text.eq_append_of_cut? opened)
  have inner := congrArg List.length (Text.eq_append_of_cut? closed)
  simp only [List.length_append, List.length_cons] at outer inner
  omega

/-- The comment blocks of a source that document an action, in order.  A comment that is not
closed ends the source. -/
def commentBlocks (source : List Char) : List CommentBlock :=
  match opened : Text.cut? ['/', '*', '*'] source with
  | none => []
  | some (_, rest) =>
    match closed : Text.cut? ['*', '/'] rest with
    | none => []
    | some (body, after) =>
      have := length_lt_of_comment opened closed
      (CommentBlock.of? body after).toList ++ commentBlocks after
termination_by source.length
decreasing_by exact this

end Routebook
