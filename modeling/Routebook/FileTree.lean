import Routebook.Keyed
import Routebook.Path

namespace Routebook

/-!
# File trees

Runs look at a tree of files and directories, from a working directory inside it.  Looking a
path up follows its pieces one after the other through existing directories, and fails at the
first piece that leads nowhere.  There are no links.
-/

/-- A file with its bytes, or a directory with its named entries. -/
inductive FileTree where
  | file (content : ByteArray)
  | directory (entries : List (String × FileTree))

namespace FileTree

def empty : FileTree :=
  .directory []

def entries : FileTree → List (String × FileTree)
  | file _ => []
  | directory entries => entries

/-- What stands below a tree under a sequence of names. -/
def get? : List String → FileTree → Option FileTree
  | [], tree => some tree
  | name :: rest, tree => (entryAt? name tree.entries).bind (get? rest)

/-- Put a tree under a sequence of names.  Directories on the way are made, and a file on the
way gives place to one. -/
def put (placed : FileTree) : List String → FileTree → FileTree
  | [], _ => placed
  | name :: rest, tree =>
    .directory (insertEntry name (put placed rest ((entryAt? name tree.entries).getD .empty))
      tree.entries)

theorem get?_put (placed : FileTree) (names : List String) (tree : FileTree) :
    get? names (put placed names tree) = some placed := by
  induction names generalizing tree with
  | nil => rfl
  | cons name rest inductionHypothesis =>
    have found : ∀ (value : FileTree) (entries : List (String × FileTree)),
        entryAt? name (insertEntry name value entries) = some value := by
      intro value entries
      induction entries with
      | nil => simp [insertEntry, entryAt?]
      | cons entry others inner =>
        by_cases same : entry.1 = name
        · simp [insertEntry, same, entryAt?]
        · simpa [insertEntry, same, entryAt?] using inner
    simp [put, get?, entries, found, inductionHypothesis]

end FileTree

/-- Why a path cannot be used. -/
inductive AccessError where
  | notFound
  | notADirectory
  | isADirectory
  | notText
  | nameTooLong
  | nullCharacter
  deriving DecidableEq, Repr

def AccessError.message : AccessError → String
  | notFound => "No such file or directory (os error 2)"
  | notADirectory => "Not a directory (os error 20)"
  | isADirectory => "Is a directory (os error 21)"
  | notText => "stream did not contain valid UTF-8"
  | nameTooLong => "File name too long (os error 36)"
  | nullCharacter => "file name contained an unexpected NUL byte"

/-- A file tree and the names of the working directory in it. -/
structure Workspace where
  tree : FileTree
  directory : List String

namespace Workspace

/-- The longest name of an entry, in bytes. -/
def longestName : Nat := 255

/-- The longest path, in bytes. -/
def longestPath : Nat := 4095

/-! ## Looking up -/

/-- Follow one piece of a path.  Two points lead back to the directory around, the root being
around itself.  `absent` says what to do where a directory has no such entry. -/
def follow (absent : FileTree → List String → Except AccessError FileTree)
    (state : FileTree × List String) (piece : List Char) :
    Except AccessError (FileTree × List String) :=
  let (tree, here) := state
  match tree.get? here with
  | some (.directory entries) =>
    if !Path.names piece then .ok state
    else if piece = ['.', '.'] then .ok (tree, here.dropLast)
    else
      let name := String.ofList piece
      if name.utf8ByteSize > longestName then .error .nameTooLong
      else if (entryAt? name entries).isSome then .ok (tree, here ++ [name])
      else (absent tree (here ++ [name])).map fun tree => (tree, here ++ [name])
  | _ => .error .notADirectory

/-- Follow a path from the working directory, or from the root if it starts there. -/
def trace (absent : FileTree → List String → Except AccessError FileTree) (files : Workspace)
    (path : List Char) : Except AccessError (FileTree × List String) :=
  let (lead, pieces) := Path.split path
  let start := if lead = .root then [] else files.directory
  if path.contains '\x00' then .error .nullCharacter
  else if (String.ofList path).utf8ByteSize > longestPath then .error .nameTooLong
  else pieces.foldlM (follow absent) (files.tree, start)

def refuse (_ : FileTree) (_ : List String) : Except AccessError FileTree :=
  .error .notFound

def makeDirectory (tree : FileTree) (names : List String) : Except AccessError FileTree :=
  .ok (FileTree.put .empty names tree)

def find (files : Workspace) (path : List Char) : Except AccessError FileTree := do
  if path.isEmpty then .error .notFound
  else
    let (tree, names) ← files.trace refuse path
    match tree.get? names with
    | some found => .ok found
    | none => .error .notFound

def isDirectory (files : Workspace) (path : List Char) : Bool :=
  match files.find path with
  | .ok (.directory _) => true
  | _ => false

def isFile (files : Workspace) (path : List Char) : Bool :=
  match files.find path with
  | .ok (.file _) => true
  | _ => false

def textOf (content : ByteArray) : Except AccessError String :=
  match String.fromUTF8? content with
  | some text => .ok text
  | none => .error .notText

def read (files : Workspace) (path : List Char) : Except AccessError String := do
  match ← files.find path with
  | .file content => textOf content
  | .directory _ => .error .isADirectory

/-! ## Changing -/

/-- Make the directory of a path, and the ones around it, where they are missing.  The empty
path needs none. -/
def makeDirectories (files : Workspace) (path : List Char) : Except AccessError Workspace := do
  let (tree, names) ← files.trace makeDirectory path
  match tree.get? names with
  | some (.directory _) => .ok { files with tree := tree }
  | _ => .error .notADirectory

def passOver (tree : FileTree) (_ : List String) : Except AccessError FileTree :=
  .ok tree

/-- Write a file into an existing directory, over a file of the same path. -/
def writeFile (files : Workspace) (path : List Char) (content : ByteArray) :
    Except AccessError Workspace := do
  let (tree, names) ← files.trace passOver path
  match tree.get? names with
  | some (.directory _) => .error .isADirectory
  | _ =>
    if Path.names (Path.lastPiece path) then
      .ok { files with tree := FileTree.put (.file content) names tree }
    else .error .isADirectory

end Workspace
end Routebook
