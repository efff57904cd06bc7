import Routebook.Text.Cut

namespace Routebook

/-!
# Paths

A path is a text of pieces between slashes.  Empty pieces and points name nothing, except that
a slash at the start means the root of all directories and a point at the start the working
directory.  Paths are joined and cut as texts: what is kept of them stays as it was written.
-/

namespace Path

/-- How a path starts. -/
inductive Lead where
  | name
  | root
  /-- With a point as its first piece. -/
  | here
  deriving DecidableEq, Repr

/-- How a path starts, and the pieces behind the start. -/
def split (path : List Char) : Lead × List (List Char) :=
  match Text.piecesAt '/' path with
  | [[]] => (.name, [])
  | [] :: pieces => (.root, pieces)
  | ['.'] :: pieces => (.here, pieces)
  | pieces => (.name, pieces)

/-- The piece names an entry of a directory. -/
def names (piece : List Char) : Bool :=
  !piece.isEmpty && piece != ['.']

def glue (lead : Lead) (pieces : List (List Char)) : List Char :=
  let body := Text.joinWith ['/'] pieces
  match lead with
  | .name => body
  | .root => '/' :: body
  | .here => if pieces.isEmpty then ['.'] else '.' :: '/' :: body

/-- A path below another one.  One that starts at the root stands for itself. -/
def join (base relative : List Char) : List Char :=
  if relative.head? == some '/' || base.isEmpty then relative
  else if base.getLast? == some '/' then base ++ relative
  else base ++ '/' :: relative

/-- The path of the directory around an entry; the root has none. -/
def parent? (path : List Char) : Option (List Char) :=
  let (lead, pieces) := split path
  match pieces.reverse.dropWhile (!names ·) with
  | [] => if lead = .here then some [] else none
  | _ :: others => some (glue lead (others.dropWhile (!names ·)).reverse)

def dropNames? : List (List Char) → List (List Char) → Option (List (List Char))
  | [], pieces => some (pieces.dropWhile (!names ·))
  | name :: others, pieces =>
    match pieces.dropWhile (!names ·) with
    | [] => none
    | piece :: rest => if piece = name then dropNames? others rest else none

/-- The path as seen from another one, if it lies below that. -/
def below? (base path : List Char) : Option (List Char) :=
  let (baseLead, basePieces) := split base
  let (lead, pieces) := split path
  let baseNames := basePieces.filter names
  if baseLead = .name ∧ baseNames = [] then some path
  else if baseLead = lead then (dropNames? baseNames pieces).map (glue .name)
  else none

/-- What follows the last slash of a path. -/
def lastPiece (path : List Char) : List Char :=
  (Text.cutLastAt? '/' path).elim path (·.2)

/-- What follows the last point of a name, unless the name starts with that point. -/
def extension? (name : List Char) : Option (List Char) :=
  match Text.cutLastAt? '.' name with
  | some (before, after) => if before.isEmpty then none else some after
  | none => none

end Path
end Routebook
