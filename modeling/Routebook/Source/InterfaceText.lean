import Routebook.Source.TypeText

namespace Routebook

/-!
# Interfaces of a source

A source declares interfaces, each with members on lines of their own or in a row.  The text
is cut into logical lines first, so that both ways of writing read alike.  A comment is a
hint for the member directly below it.
-/

/-! ## Logical lines -/

/-- The pieces of a line of code: a line ends behind an opening brace and at a semicolon, and
a closing brace is a line of its own. -/
def splitCode (current : List Char) : List Char → List (List Char)
  | [] => [current.reverse]
  | c :: rest =>
    if c == '{' then ('{' :: current).reverse :: splitCode [] rest
    else if c == ';' then current.reverse :: splitCode [] rest
    else if c == '}' then current.reverse :: ['}'] :: splitCode [] rest
    else splitCode (c :: current) rest

/-- The logical lines of a line.  A comment is kept whole. -/
def logicalLinesOf (line : List Char) : List (List Char) :=
  let line := Text.trim line
  if isComment line then [line]
  else ((splitCode [] line).map Text.trim).filter (!·.isEmpty)

/-- The logical lines of a text, none of them empty. -/
def logicalLines (text : List Char) : List (List Char) :=
  (Text.lines text).flatMap logicalLinesOf

/-! ## Members -/

/-- The name of a member without its modifiers, and whether a value may be missing. -/
def memberName (field : List Char) : List Char × Bool :=
  let field := Text.trim (Text.dropRepeated "readonly ".toList (Text.trim field))
  let (field, nullable) :=
    match Text.stripEnd? ['?'] field with
    | some field => (field, true)
    | none => (field, false)
  (Text.trimWhere (fun c => c == '"' || c == '\x27') field, nullable)

/-- The written type of a member.  An object in place counts as one whatever its members. -/
def memberType (type : List Char) : List Char :=
  let type := Text.trim (Text.trimEndWhere (· == ',') (Text.trim type))
  if Text.endsWith ['{'] type then "object".toList else type

/-- The sample of a member of primitive type: what the hint prescribes, else the sample of its
name, else the sample of its type and format. -/
def memberSample (hint : Hint) (name : String) (type : String) (format : Option String)
    (stream : RandomStream) : Json × RandomStream :=
  match hint.sample? type with
  | some sample => (sample, stream)
  | none =>
    match Sample.ofField? name with
    | some sample => (sample, stream)
    | none => Sample.ofType type format stream

/-- The property of a member, unless its name shows that it is no property. -/
def readMember (field type : List Char) (hint : Hint) (stream : RandomStream) :
    Option (String × Property) × RandomStream :=
  let (name, optional) := memberName field
  if name.isEmpty || name.contains ' ' || name.contains '(' then (none, stream)
  else
    let name := String.ofList name
    let (union, nullable) := withoutNull (memberType type)
    let (base, isArray) := itemType union
    let property :=
      { (propertyWith hint base).withHint hint with
        isArray := isArray
        nullable := optional || nullable }
    match property.type with
    | .primitive primitive =>
      let (sample, stream) := memberSample hint name primitive property.format stream
      (some (name, { property with sample := sample }.withConvention name), stream)
    | .reference _ => (some (name, property.withConvention name), stream)

/-! ## Interfaces -/

/-- What a logical line is before its place is known. -/
inductive InterfaceLine where
  | comment (text : List Char)
  | header (name : String)
  | code (text : List Char)
  deriving DecidableEq, Repr

/-- Modifiers before an interface say nothing about its shape. -/
def dropModifiers (line : List Char) : List Char :=
  Text.trim (Text.dropRepeated "declare ".toList
    (Text.dropRepeated "default ".toList (Text.dropRepeated "export ".toList line)))

def InterfaceLine.of (line : List Char) : InterfaceLine :=
  if isComment line then .comment line
  else
    let line := dropModifiers line
    match Text.stripStart? "interface ".toList line with
    | some rest => .header (String.ofList (rest.takeWhile Text.isNameChar))
    | none => .code line

/-- What is known while the lines of a source are read. -/
structure InterfaceScan where
  finished : List Schema
  current : Option Schema
  /-- The last comment, as long as it may belong to the next member. -/
  hint : Hint
  openObjects : Nat
  stream : RandomStream

namespace InterfaceScan

def start (stream : RandomStream) : InterfaceScan :=
  ⟨[], none, .none, 0, stream⟩

def schemas (scan : InterfaceScan) : List Schema :=
  scan.finished ++ scan.current.toList

def close (scan : InterfaceScan) : InterfaceScan :=
  { scan with finished := scan.schemas, current := none }

/-- Read a line of code within an interface, outside every object in place. -/
def readCode (scan : InterfaceScan) (schema : Schema) (line : List Char) : InterfaceScan :=
  match Text.cutAt? ':' line with
  | none => { scan with hint := .none }
  | some (field, type) =>
    let (member, stream) := readMember field type scan.hint scan.stream
    let properties :=
      match member with
      | some (name, property) => schema.properties.insert name property
      | none => schema.properties
    { scan with
      current := some { schema with properties := properties }
      hint := .none
      openObjects := if Text.endsWith ['{'] (Text.trimEnd type) then 1 else 0
      stream := stream }

/-- Read a logical line.  The members of an object in place are passed over, and a header
closes the interface before it wherever it stands. -/
def step (scan : InterfaceScan) (line : List Char) : InterfaceScan :=
  match InterfaceLine.of line with
  | .comment text => { scan with hint := .ofComment text }
  | .header name =>
    { scan.close with
      current := some ⟨name, .interface, .empty⟩
      hint := .none }
  | .code line =>
    match scan.current with
    | none => { scan with hint := .none }
    | some schema =>
      if 0 < scan.openObjects then
        if line == ['}'] then { scan with openObjects := scan.openObjects - 1 }
        else if Text.endsWith ['{'] line then { scan with openObjects := scan.openObjects + 1 }
        else scan
      else if line == ['}'] then scan.close
      else scan.readCode schema line

end InterfaceScan

/-- The interfaces of a source in order, and the random stream behind their samples. -/
def readInterfaces (source : Source) (stream : RandomStream) : List Schema × RandomStream :=
  let scan := (logicalLines source.text.toList).foldl InterfaceScan.step (.start stream)
  (scan.schemas, scan.stream)

end Routebook
