import Routebook.FileTree
import Routebook.Schema

namespace Routebook

/-!
# Projects

A project is a directory with sources.  The models and the interfaces are all the source files
below two directories of it, visited in the order of their names; a controller is a single
source file that is asked for by its path without extension.
-/

/-- A source that cannot be read. -/
structure SourceError where
  path : String
  cause : AccessError
  deriving DecidableEq, Repr

def SourceError.message (error : SourceError) : String :=
  "cannot read source file " ++ error.path ++ ": " ++ error.cause.message

/-! ## Source files -/

/-- The extensions of sources.  A controller is looked for under each of them in this order. -/
def sourceExtensions : List String :=
  ["ts", "js"]

/-- The name is the name of a source file.  Files that only declare types are none. -/
def isSourceName (name : String) : Bool :=
  !Text.endsWith ".d.ts".toList name.toList &&
    ((Path.extension? name.toList).map String.ofList).any sourceExtensions.contains

/-- Entries with the name are passed over, with everything below them. -/
def isPassedOver (name : String) : Bool :=
  name.toList.head? == some '.' || name == "node_modules"

/-- A file below a directory: the names that lead to it, and its bytes. -/
structure LocatedFile where
  names : List String
  content : ByteArray

def LocatedFile.under (name : String) (file : LocatedFile) : LocatedFile :=
  ⟨name :: file.names, file.content⟩

def precedes {α : Type} (first second : String × α) : Bool :=
  first.1 ≤ second.1

mutual

/-- The source files below a directory, its entries being visited in the order of their names
and the files below an entry at its place. -/
def FileTree.sourceFiles : FileTree → List LocatedFile
  | .file _ => []
  | .directory entries =>
    ((FileTree.branches entries).mergeSort precedes).flatMap fun branch =>
      branch.2.map (·.under branch.1)
termination_by structural tree => tree

def FileTree.branches : List (String × FileTree) → List (String × List LocatedFile)
  | [] => []
  | (name, tree) :: rest =>
    (name,
      if isPassedOver name then []
      else match tree with
        | .file content => if isSourceName name then [⟨[], content⟩] else []
        | .directory entries => FileTree.sourceFiles (.directory entries)) ::
      FileTree.branches rest
termination_by structural entries => entries

end

/-! ## Projects -/

structure Project where
  files : Workspace
  root : String

namespace Project

def locate (project : Project) (path : String) : List Char :=
  Path.join project.root.toList path.toList

/-- The path of a source as it is reported: seen from the project, with slashes only. -/
def reportedPath (project : Project) (path : List Char) : String :=
  String.ofList (((Path.below? project.root.toList path).getD path).map fun c =>
    if c = '\\' then '/' else c)

def sourceOf (project : Project) (directory : List Char) (file : LocatedFile) :
    Except SourceError Source :=
  let path := file.names.foldl (fun path name => Path.join path name.toList) directory
  match Workspace.textOf file.content with
  | .ok text => .ok ⟨project.reportedPath path, text⟩
  | .error cause => .error ⟨String.ofList path, cause⟩

/-- The sources below a directory of the project, or the first file that is no text.  There are
none where there is no directory. -/
def sources (project : Project) (directory : String) : Except SourceError (List Source) :=
  let path := project.locate directory
  match project.files.find path with
  | .ok tree => tree.sourceFiles.mapM (project.sourceOf path)
  | .error _ => .ok []

def controllerPaths (project : Project) (path : String) : List (List Char) :=
  sourceExtensions.map fun extension => project.locate (path ++ "." ++ extension)

/-- The text of a controller.  Where none of its paths leads to a file, the first one is
reported. -/
def readController (project : Project) (path : String) : Except SourceError String :=
  let paths := project.controllerPaths path
  match (paths.find? project.files.isFile).or paths.head? with
  | none => .error ⟨path, .notFound⟩
  | some path =>
    match project.files.read path with
    | .ok text => .ok text
    | .error cause => .error ⟨String.ofList path, cause⟩

end Project
end Routebook
