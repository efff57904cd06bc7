import Routebook.CommandLine

namespace Routebook

/-!
# The command line

The program loads what a run may look at into a workspace, lets the library run on it, and
prints or writes the text.  Everything that is decided is decided by the library.
-/

/-! ## Loading -/

/-- Enter what stands at a path into the workspace. -/
def loadEntry (files : Workspace) (path : List Char) : IO Workspace := do
  let name := String.ofList path
  let present ← (some <$> IO.FS.realPath name).catchExceptions fun _ => pure none
  match present with
  | none => pure files
  | some real =>
    let loaded ←
      if ← real.isDir then pure (files.makeDirectories path)
      else pure (files.writeFile path (← IO.FS.readBinFile name))
    pure (loaded.toOption.getD files)

/-- The paths of the directories that lead to a path, and the path itself. -/
def leadingPaths (path : List Char) : List (List Char) :=
  let pieces := Text.piecesAt '/' path
  (List.range pieces.length).map fun count => Text.joinWith ['/'] (pieces.take (count + 1))

def loadPath (files : Workspace) (path : List Char) : IO Workspace :=
  ((leadingPaths path).filter (!·.isEmpty)).foldlM loadEntry files

/-- Enter everything below a path that is not passed over. -/
partial def loadBelow (files : Workspace) (path : List Char) : IO Workspace := do
  if files.isDirectory path then
    let entries ← (← IO.FS.realPath (String.ofList path)).readDir
    entries.foldlM (fun files entry => do
      if isPassedOver entry.fileName then pure files
      else
        let path := Path.join path entry.fileName.toList
        loadBelow (← loadEntry files path) path) files
  else pure files

/-- The workspace without entries but for the working directory. -/
def bareWorkspace : IO Workspace := do
  let names := ((← IO.currentDir).toString.toList |> Path.split).2.map String.ofList
  pure ⟨FileTree.put .empty names .empty, names⟩

/-- Enter all that a run may look at: the paths among its arguments, then the directories of
sources that the options name, then the controllers of the routes. -/
def loadFor (run : Invocation) : IO Workspace := do
  let named := [run.project, run.routes] ++ run.config.toList ++ run.output.toList
  let files ← (named.map String.toList).foldlM loadPath (← bareWorkspace)
  match run.projectIn files, run.optionsIn files, run.entriesIn files with
  | .ok project, .ok options, .ok entries =>
    let directories := [options.interfacesPath, options.modelsPath].map project.locate
    let files ← directories.foldlM (fun files path => do
      loadBelow (← loadPath files path) path) files
    let controllers := (RouteEntry.routes options entries).flatMap fun route =>
      match route.handler with
      | .controller source _ => project.controllerPaths source
      | .closure _ => []
    controllers.foldlM loadPath files
  | _, _, _ => pure files

/-! ## Reporting -/

def usage : String :=
  "Usage: routebook [OPTIONS] <PROJECT_PATH> <ROUTES_FILE>\n\n" ++
  "Options:\n" ++
  "  -c, --config <FILE>             Options in YAML or JSON\n" ++
  "  -f, --format <yaml|json>        Format of the document\n" ++
  "  -o, --output <FILE>             File for the document\n" ++
  "      --title <TITLE>             Title of the document\n" ++
  "      --version-string <VERSION>  Version of the document\n" ++
  "  -v, --verbose                   Accepted for scripts that ask for more output\n" ++
  "  -h, --help                      This text\n" ++
  "  -V, --version                   Version of the program"

def programVersion : String := "routebook 0.1.0"

def reportUsage : UsageError → IO UInt32
  | .helpRequested => do
    IO.println usage
    pure 0
  | .versionRequested => do
    IO.println programVersion
    pure 0
  | error => do
    IO.eprintln ("error: " ++ error.message ++ "\n\n" ++ usage)
    pure 2

/-- Print the text of a run, or write it to its file. -/
def emit (run : Invocation) (text : String) : IO Unit :=
  match run.output with
  | none => IO.println text
  | some path => do
    match Path.parent? path.toList with
    | some (c :: rest) => IO.FS.createDirAll (String.ofList (c :: rest))
    | _ => pure ()
    IO.FS.writeFile path text

end Routebook

open Routebook in
def main (arguments : List String) : IO UInt32 := do
  match Invocation.ofArguments arguments with
  | .error error => reportUsage error
  | .ok run =>
    let seed ← IO.rand 0 0xffffffff
    match run.execute (← loadFor run) (UInt64.ofNat seed) with
    | .error error =>
      IO.eprintln ("Error: " ++ error.message)
      pure 1
    | .ok (text, _) =>
      emit run text
      pure 0
