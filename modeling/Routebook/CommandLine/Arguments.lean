import Routebook.Document

namespace Routebook

/-!
# Arguments

A run is asked for by the path of a project, the path of a route list, and options.  An option
takes its value from the next argument, from behind an equals sign, or, in its short form, from
the rest of the argument.  Short flags may share an argument.  After two hyphens alone every
argument is a path.

A value is looked at when the argument behind it has been understood, so that an argument that
no command line could hold is reported before the value in front of it.
-/

/-- Why arguments ask for no run. -/
inductive UsageError where
  | missingArgument
  /-- There is no such option, or no place for another path. -/
  | unknownArgument
  /-- A value is missing or is not one of those that are allowed. -/
  | invalidValue
  | unexpectedValue
  | repeatedOption
  | helpRequested
  | versionRequested
  deriving DecidableEq, Repr

def UsageError.message : UsageError → String
  | missingArgument => "a path is missing"
  | unknownArgument => "an argument is not expected"
  | invalidValue => "a value is missing or not allowed"
  | unexpectedValue => "a flag takes no value"
  | repeatedOption => "an option is given twice"
  | helpRequested => "help is requested"
  | versionRequested => "the version is requested"

/-- What a value is given for. -/
inductive Setting where
  | project
  | routes
  | config
  | format
  | output
  | title
  | version
  deriving DecidableEq, Repr

/-- What is given without a value. -/
inductive Flag where
  | verbose
  | help
  | version
  deriving DecidableEq, Repr

def Document.Format.ofName? : String → Option Document.Format
  | "yaml" => some .yaml
  | "json" => some .json
  | _ => none

/-- The value is allowed: a path is not empty, and a format is known. -/
def Setting.allows (setting : Setting) (value : String) : Bool :=
  match setting with
  | .project | .routes | .config | .output => !value.isEmpty
  | .format => (Document.Format.ofName? value).isSome
  | .title | .version => true

def longOption? : String → Option (Setting ⊕ Flag)
  | "config" => some (.inl .config)
  | "format" => some (.inl .format)
  | "output" => some (.inl .output)
  | "title" => some (.inl .title)
  | "version-string" => some (.inl .version)
  | "verbose" => some (.inr .verbose)
  | "help" => some (.inr .help)
  | "version" => some (.inr .version)
  | _ => none

def shortOption? : Char → Option (Setting ⊕ Flag)
  | 'c' => some (.inl .config)
  | 'f' => some (.inl .format)
  | 'o' => some (.inl .output)
  | 'v' => some (.inr .verbose)
  | 'h' => some (.inr .help)
  | 'V' => some (.inr .version)
  | _ => none

/-- What is known of the arguments read so far. -/
structure ArgumentState where
  /-- The values that have been looked at. -/
  settled : List (Setting × String)
  verbose : Bool
  /-- The last setting, with its value if that has been read. -/
  pending : Option (Setting × Option String)
  /-- The settings that paths without an option are for. -/
  places : List Setting
  /-- Only paths follow. -/
  pathsOnly : Bool

namespace ArgumentState

def start : ArgumentState :=
  ⟨[], false, none, [.project, .routes], false⟩

/-- Look at the value of the last setting. -/
def settle (state : ArgumentState) : Except UsageError ArgumentState :=
  match state.pending with
  | none => .ok state
  | some (_, none) => .error .invalidValue
  | some (setting, some value) =>
    if state.settled.any (·.1 == setting) then .error .repeatedOption
    else if setting.allows value then
      .ok { state with settled := state.settled ++ [(setting, value)], pending := none }
    else .error .invalidValue

/-- Begin a setting whose value may follow. -/
def await (state : ArgumentState) (setting : Setting) (value : Option String) :
    Except UsageError ArgumentState :=
  state.settle.map fun state => { state with pending := some (setting, value) }

/-- Set a setting to a value of the same argument. -/
def set (state : ArgumentState) (setting : Setting) (value : List Char) :
    Except UsageError ArgumentState := do
  (← state.await setting (some (String.ofList value))).settle

def raise (state : ArgumentState) (flag : Flag) : Except UsageError ArgumentState := do
  let state ← state.settle
  match flag with
  | .verbose => if state.verbose then .error .repeatedOption else .ok { state with verbose := true }
  | .help => .error .helpRequested
  | .version => .error .versionRequested

def readLong (state : ArgumentState) (text : List Char) : Except UsageError ArgumentState :=
  let (name, value) := match Text.cutAt? '=' text with
    | some (name, value) => (name, some value)
    | none => (text, none)
  match longOption? (String.ofList name), value with
  | some (.inl setting), some value => state.set setting value
  | some (.inl setting), none => state.await setting none
  | some (.inr flag), none => state.raise flag
  | some (.inr _), some _ => .error .unexpectedValue
  | none, _ => .error .unknownArgument

def readShort (state : ArgumentState) : List Char → Except UsageError ArgumentState
  | [] => .ok state
  | c :: rest =>
    match shortOption? c with
    | some (.inr flag) => do readShort (← state.raise flag) rest
    | some (.inl setting) =>
      match rest with
      | [] => state.await setting none
      | '=' :: value => state.set setting value
      | value => state.set setting value
    | none => .error .unknownArgument

/-- Read a value of the last setting, or a path. -/
def readValue (state : ArgumentState) (text : String) : Except UsageError ArgumentState :=
  match state.pathsOnly, state.pending with
  | false, some (setting, none) => .ok { state with pending := some (setting, some text) }
  | _, _ =>
    match state.places with
    | [] => .error .unknownArgument
    | place :: places => { state with places := places }.await place (some text)

def read (state : ArgumentState) (text : String) : Except UsageError ArgumentState :=
  if state.pathsOnly then state.readValue text
  else match text.toList with
    | ['-', '-'] => .ok { state with pathsOnly := true }
    | '-' :: '-' :: long => state.readLong long
    | '-' :: c :: rest => state.readShort (c :: rest)
    | _ => state.readValue text

def value? (state : ArgumentState) (setting : Setting) : Option String :=
  (state.settled.find? (·.1 == setting)).map (·.2)

end ArgumentState

/-- A run that arguments ask for. -/
structure Invocation where
  project : String
  routes : String
  config : Option String
  format : Document.Format
  output : Option String
  title : Option String
  version : Option String
  verbose : Bool
  deriving DecidableEq, Repr

def Invocation.ofArguments (arguments : List String) : Except UsageError Invocation := do
  let state ← (← arguments.foldlM ArgumentState.read .start).settle
  match state.value? .project, state.value? .routes with
  | some project, some routes =>
    .ok {
      project := project
      routes := routes
      config := state.value? .config
      format := ((state.value? .format).bind Document.Format.ofName?).getD .yaml
      output := state.value? .output
      title := state.value? .title
      version := state.value? .version
      verbose := state.verbose }
  | _, _ => .error .missingArgument

end Routebook
