import Routebook.CommandLine.Arguments
import Routebook.Options.Reader
import Routebook.Project
import Routebook.Route.Handler

namespace Routebook

/-!
# Runs

A run reads the options, the route list and the sources of a project, and writes the document
of its routes.  It stops at the first thing that goes wrong, in that order.
-/

/-- Why a run writes no document. -/
inductive RunError where
  | noProject (path : String)
  | optionsUnreadable (path : String) (cause : AccessError)
  /-- The text sets no options. -/
  | options (path : String) (cause : OptionsError)
  | routesUnreadable (path : String) (cause : AccessError)
  /-- The text is no route list. -/
  | routes (path : String) (cause : RouteListError)
  | source (error : SourceError)
  | directoryNotMade (path : String)
  | notWritten (path : String)
  deriving DecidableEq, Repr

namespace RunError

def aboutOptions (path : String) : String :=
  "invalid configuration " ++ path

def aboutRoutes (path : String) : String :=
  "invalid route list " ++ path

/-- The text of an error about a thing, with its cause where the library words it. -/
def explain (about : String) (cause : Option String) : String :=
  match cause with
  | some cause => about ++ ": " ++ cause
  | none => about

def message : RunError → String
  | noProject path => "Project path is not a directory: " ++ path
  | optionsUnreadable path cause => explain (aboutOptions path) (some cause.message)
  | options path cause => explain (aboutOptions path) cause.message?
  | routesUnreadable path cause => explain (aboutRoutes path) (some cause.message)
  | routes path cause => explain (aboutRoutes path) cause.message?
  | source error => error.message
  | directoryNotMade path => "Failed to create directory: " ++ path
  | notWritten path => "Failed to write to file: " ++ path

end RunError

namespace Invocation

def projectIn (run : Invocation) (files : Workspace) : Except RunError Project :=
  if files.isDirectory run.project.toList then .ok ⟨files, run.project⟩
  else .error (.noProject run.project)

def fileOptions (run : Invocation) (files : Workspace) : Except RunError Options :=
  match run.config with
  | none => .ok .default
  | some path => do
    let text ← (files.read path.toList).mapError (.optionsUnreadable path)
    (Options.read text.toList).mapError (.options path)

/-- The options of a run.  A title or version among the arguments counts more than one in the
file. -/
def optionsIn (run : Invocation) (files : Workspace) : Except RunError Options := do
  let options ← run.fileOptions files
  .ok { options with
    title := run.title.getD options.title
    version := run.version.getD options.version }

def entriesIn (run : Invocation) (files : Workspace) : Except RunError (List RouteEntry) := do
  let text ← (files.read run.routes.toList).mapError (.routesUnreadable run.routes)
  (readRouteList text.toList).mapError (.routes run.routes)

end Invocation

/-- The catalog of the sources of a project, its samples being drawn by the seed of the options
or else by `seed`. -/
def Project.catalog (project : Project) (options : Options) (seed : UInt64) :
    Except SourceError Catalog := do
  let interfaces ← project.sources options.interfacesPath
  let models ← project.sources options.modelsPath
  .ok (.build interfaces models options.snakeCase (.ofSeed (options.exampleSeed.getD seed)))

def Project.document (project : Project) (options : Options) (entries : List RouteEntry)
    (seed : UInt64) : Except SourceError Document := do
  let catalog ← project.catalog options seed
  (assemble (fun path state => (project.readController path, state)) catalog options
    (RouteEntry.routes options entries) ()).1

namespace Invocation

def text (run : Invocation) (files : Workspace) (seed : UInt64) : Except RunError String := do
  let project ← run.projectIn files
  let options ← run.optionsIn files
  let entries ← run.entriesIn files
  let document ← (project.document options entries seed).mapError .source
  .ok (document.render run.format)

/-- Write a text to a path, in a directory that is made if it is missing. -/
def deliver (files : Workspace) (path text : String) : Except RunError Workspace := do
  let files ← match Path.parent? path.toList with
    | none => .ok files
    | some parent =>
      (files.makeDirectories parent).mapError fun _ => .directoryNotMade (String.ofList parent)
  (files.writeFile path.toList text.toUTF8).mapError fun _ => .notWritten path

/-- Run: the text, and the workspace behind the run. -/
def execute (run : Invocation) (files : Workspace) (seed : UInt64) :
    Except RunError (String × Workspace) := do
  let text ← run.text files seed
  match run.output with
  | none => .ok (text, files)
  | some path => do
    let files ← deliver files path text
    .ok (text, files)

end Invocation
end Routebook
