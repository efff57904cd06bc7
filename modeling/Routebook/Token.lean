import Routebook.Text.Cut

namespace Routebook
namespace Token

/-!
# Tokens of an annotation line

Beside free text an annotation line carries tokens: a name with a value in parentheses, such
as a list of allowed values or an example, a reference to a schema in angle brackets, and a
fragment of JSON in braces.  Nothing here fails: a missing token reads as the empty text or
as no value.
-/

/-! ## Named values -/

def opening (name : String) : List Char :=
  name.toList ++ ['(']

/-- A token begins where the preceding character, if there is one, belongs to no name. -/
def isBoundary (previous : Option Char) : Bool :=
  previous.all fun c => !Text.isNameChar c

/-- The value of the first token with this opening, as it is written.  An occurrence of the
opening inside a name is passed over, and so is one whose value would hold a parenthesis; an
occurrence that is never closed ends the search. -/
def rawValue? (opening : List Char) (previous : Option Char) (line : List Char) :
    Option (List Char) :=
  match found : Text.cut? opening line with
  | none => none
  | some (before, after) =>
    if progress : opening = [] then none
    else
      have : after.length < line.length := by
        have := List.length_pos_iff.mpr progress
        simp [Text.eq_append_of_cut? found]
        omega
      if isBoundary (before.getLast?.or previous) then
        match Text.cutAt? ')' after with
        | none => none
        | some (value, _) =>
          if value.contains '(' then rawValue? opening (some '(') after else some value
      else rawValue? opening (some '(') after
termination_by line.length

/-- The token whose value is a text for people and keeps its blanks. -/
def verbatimName : String := "example"

/-- The value of the first token of a name, empty if there is none.  Blanks are dropped from
every value but that of an example. -/
def value (name : String) (line : List Char) : List Char :=
  match rawValue? (opening name) none line with
  | none => []
  | some value => if name == verbatimName then value else value.filter (!Text.isBlank ·)

/-- The entries of a list that is separated by commas, trimmed, without empty ones. -/
def entries (value : List Char) : List String :=
  (((Text.piecesAt ',' value).map Text.trim).filter (!·.isEmpty)).map String.ofList

def listValue (name : String) (line : List Char) : List String :=
  entries (value name line)

/-! ## Brackets -/

/-- The text from the first opening brace to the last closing one. -/
def jsonFragment? (line : List Char) : Option (List Char) := do
  let (_, after) ← Text.cutAt? '{' line
  let (inner, _) ← Text.cutLastAt? '}' after
  some ('{' :: inner ++ ['}'])

/-- The trimmed text between the first opening and the last closing angle bracket, unless
there is nothing between them. -/
def angleReference? (line : List Char) : Option (List Char) := do
  let (_, after) ← Text.cutAt? '<' line
  let (inner, _) ← Text.cutLastAt? '>' after
  if inner.isEmpty then none else some (Text.trim inner)

/-! ## Removal -/

def dropPoint (text : List Char) : List Char :=
  (Text.stripEnd? ['.'] text).getD text

theorem length_dropPoint_le (text : List Char) : (dropPoint text).length ≤ text.length := by
  unfold dropPoint
  cases stripped : Text.stripEnd? ['.'] text with
  | none => exact Nat.le_refl _
  | some rest =>
    have whole := congrArg List.length (Text.stripEnd?_eq_some_iff.mp stripped)
    simp only [List.length_append] at whole
    rw [Option.getD_some]
    omega

theorem length_lt_of_token {opening line before after token rest : List Char}
    (found : Text.cut? opening line = some (before, after))
    (closed : Text.cutAt? ')' (opening ++ after) = some (token, rest)) :
    (dropPoint before ++ rest).length < line.length := by
  obtain ⟨_, _, same⟩ := Text.eq_append_of_cutWhere? closed
  have whole := congrArg List.length (Text.eq_append_of_cut? found)
  have inner := congrArg List.length same
  have kept := length_dropPoint_le before
  simp only [List.length_append, List.length_cons] at whole inner ⊢
  omega

/-- The line without the tokens of an opening.  Each is removed from its opening to the next
closing parenthesis, with a point before it.  The search begins again at the start of the
line after every removal, and ends with an opening that is never closed. -/
def removeOpening (opening : List Char) (line : List Char) : List Char :=
  match found : Text.cut? opening line with
  | none => line
  | some (before, after) =>
    match closed : Text.cutAt? ')' (opening ++ after) with
    | none => line
    | some (_, rest) =>
      have := length_lt_of_token found closed
      removeOpening opening (dropPoint before ++ rest)
termination_by line.length
decreasing_by exact this

/-- The line without the tokens of the given names, removed name by name. -/
def remove (names : List String) (line : List Char) : List Char :=
  names.foldl (fun line name => removeOpening (opening name) line) line

end Token
end Routebook
