import Routebook.Source.Decorator
import Routebook.Source.TypeText

namespace Routebook

/-!
# The model of a source

A model is a class whose columns and relations are declared as fields.  Comments and
decorators above a field say whether it is published and refine it.  Methods and static
members are passed over.  A source holds one model, named after its class or else after its
file.
-/

/-! ## Words of a line -/

/-- The text behind a keyword and at least one blank. -/
def afterKeyword? (keyword : String) (text : List Char) : Option (List Char) := do
  let rest ← Text.stripStart? keyword.toList text
  if (rest.head?.any Text.isBlank) then some (Text.trimStart rest) else none

/-- The text behind a keyword if it is there, else the whole text. -/
def skipKeyword (keyword : String) (text : List Char) : List Char :=
  (afterKeyword? keyword text).getD text

def leadingWord? (text : List Char) : Option String :=
  let word := text.takeWhile Text.isWord
  if word.isEmpty then none else some (String.ofList word)

def className? (line : List Char) : Option String :=
  (afterKeyword? "class" (skipKeyword "default" (skipKeyword "export" line))).bind leadingWord?

/-- The word behind the first `typeof` that is followed by one. -/
def typeofName? : List Char → Option String
  | [] => none
  | c :: rest =>
    match (afterKeyword? "typeof" (c :: rest)).bind leadingWord? with
    | some name => some name
    | none => typeofName? rest

def mentions (text : List Char) (needle : String) : Bool :=
  Text.contains needle.toList text

/-! ## Fields -/

def isStaticLine (line : List Char) : Bool :=
  ["public static ", "private static ", "protected static ", "static "].any fun head =>
    Text.startsWith head.toList line

/-- A comment or a decorator that keeps a field unpublished. -/
def hidesField (text : List Char) : Bool :=
  mentions text "serializeAs: null" || mentions text "serializeAs:null" ||
    mentions text "@no-swagger"

/-- The line declares a relation to many records. -/
def isCollectionLine (line : List Char) : Bool :=
  ["HasMany", "ManyToMany", "HasManyThrough", "@hasMany", "@manyToMany",
    "@hasManyThrough"].any (mentions line)

/-- The raw name and the raw type of an accessor, which is written like a method. -/
def accessorParts? (text : List Char) : Option (List Char × List Char) := do
  let (field, parameters) ← Text.cutAt? '(' text
  let type := ((Text.cut? [')', ':'] ('(' :: parameters)).map (·.2)).getD "any".toList
  some (field, type)

/-- The raw name and the raw type of a field.  A declaration with parentheses is a method
unless they belong to a relation. -/
def fieldParts? (text : List Char) : Option (List Char × List Char) :=
  if text.contains '(' && !mentions text "typeof" then none
  else Text.cutAt? ':' text

/-- The text behind the words that introduce a field. -/
def fieldDeclaration? (declaration : List Char) : Option (List Char) :=
  (Text.stripStart? "declare ".toList declaration).or
    ((Text.stripStart? "public declare ".toList declaration).or
      (Text.stripStart? "public ".toList declaration))

def fieldName (raw : List Char) : List Char :=
  Text.trim (Text.trimEndWhere (fun c => c == '?' || c == '!') (Text.trim raw))

/-- The written type of a field, without an initial value and without what ends the
declaration. -/
def fieldType (raw : List Char) : List Char :=
  let raw := Text.trim raw
  let type := ((Text.cut? " = ".toList raw).map (·.1)).getD raw
  Text.trim (Text.trimEndWhere (· == ';') (Text.trim (Text.trimEndWhere (· == '{') type)))

/-- The name and the written type of a declared field or accessor. -/
def splitDeclaration? (declaration : List Char) : Option (List Char × List Char) := do
  let (field, type) ←
    match Text.stripStart? "public get ".toList declaration with
    | some rest => accessorParts? rest
    | none => (fieldDeclaration? declaration).bind fieldParts?
  let name := fieldName field
  if name.isEmpty || name.contains ' ' then none else some (name, fieldType type)

/-- The hint of the lines above a field.  A token counts only if one of its kind is marked
with an at sign. -/
def Hint.ofPending (pending : List Char) : Hint :=
  let hint := Hint.ofComment pending
  { choices := if mentions pending "@enum" then hint.choices else []
    sample := if mentions pending "@example" then hint.sample else []
    format := if mentions pending "@format" then hint.format else [] }

/-- The sample of a field of primitive type: what the hint prescribes, a drawn number for a
number, else the sample of its name or of its type and format.  A truth value is always
true. -/
def fieldSample (hint : Hint) (field : String) (type : String) (format : Option String)
    (stream : RandomStream) : Json × RandomStream :=
  let (sample, stream) :=
    match hint.sample? type with
    | some sample => (sample, stream)
    | none =>
      if type == "number" || type == "integer" then Sample.randomInteger stream
      else match Sample.ofField? field with
        | some sample => (sample, stream)
        | none => Sample.ofType type format stream
  (if type == "boolean" then .bool true else sample, stream)

/-- A property of the written type of a field: a relation names its model, and everything
else is read as any written type. -/
def fieldShape (hint : Hint) (base : List Char) (isCollection : Bool) : Property :=
  match typeofName? base with
  | some model => { Property.ofReference model with isArray := isCollection }
  | none =>
    let (base, isArray) := itemType base
    { propertyWith hint base with isArray := isArray || isCollection }

def readField (field : String) (type line : List Char) (hint : Hint) (stream : RandomStream) :
    Property × RandomStream :=
  let (base, nullable) := withoutNull type
  let property :=
    { (fieldShape hint base (isCollectionLine line)).withHint hint with nullable := nullable }
  match property.type with
  | .primitive primitive =>
    let (sample, stream) := fieldSample hint field primitive property.format stream
    ({ property with sample := sample }.withConvention field, stream)
  | .reference _ => (property.withConvention field, stream)

/-! ## The model -/

/-- What is known while the lines of a source are read. -/
structure ModelScan where
  className : Option String
  /-- The model keeps deleted records with the time of their deletion. -/
  softDelete : Bool
  properties : Keyed Property
  /-- The comments and decorators since the last declaration. -/
  pending : List Char
  /-- Parentheses of a decorator that is continued on the next line. -/
  openParens : Int
  stream : RandomStream

namespace ModelScan

def start (stream : RandomStream) : ModelScan :=
  ⟨none, false, .empty, [], 0, stream⟩

/-- Note the class name and the marks of a line, whatever else the line is. -/
def note (scan : ModelScan) (line : List Char) : ModelScan :=
  { scan with
    className := scan.className.or (className? line)
    softDelete := scan.softDelete ||
      mentions line "@swagger-softdelete" || mentions line "SoftDeletes" }

def keep (scan : ModelScan) (line : List Char) : ModelScan :=
  { scan with pending := scan.pending ++ line ++ ['\n'] }

/-- Read a line that may declare a field, with the leading decorators cut off. -/
def readDeclaration (snake : Bool) (scan : ModelScan) (line decorators declaration : List Char) :
    ModelScan :=
  let cleared := { scan with pending := [] }
  if isStaticLine line || hidesField scan.pending || hidesField decorators then cleared
  else match splitDeclaration? declaration with
    | none => cleared
    | some (name, type) =>
      let field := String.ofList (if snake then snakeCase name else name)
      let (property, stream) := readField field type line (.ofPending scan.pending) scan.stream
      { cleared with
        properties := scan.properties.insert field property
        stream := stream }

/-- Read a line that is trimmed and not empty. -/
def readLine (snake : Bool) (scan : ModelScan) (line : List Char) : ModelScan :=
  let scan := scan.note line
  if 0 < scan.openParens then
    { scan with openParens := scan.openParens + parenBalance line }.keep line
  else
    let (decorators, declaration) := splitDecorators line
    if isComment line then scan.keep line
    else if Text.startsWith ['@'] line && declaration.isEmpty then
      { scan with openParens := max 0 (parenBalance line) }.keep line
    else scan.readDeclaration snake line decorators declaration

def step (snake : Bool) (scan : ModelScan) (line : List Char) : ModelScan :=
  let line := Text.trim line
  if line.isEmpty then scan else scan.readLine snake line

end ModelScan

def softDeleteProperty : Property :=
  { Property.ofPrimitive "string" (.text Sample.dateTime) with format := some "date-time" }

/-- The model of a source, and the random stream behind its samples.  Field names are written
with underscores if `snake` holds. -/
def readModel (snake : Bool) (source : Source) (stream : RandomStream) : Schema × RandomStream :=
  let scan := (Text.lines source.text.toList).foldl (ModelScan.step snake) (.start stream)
  let properties :=
    if scan.softDelete then scan.properties.insert "deleted_at" softDeleteProperty
    else scan.properties
  let name := scan.className.getD (String.ofList (pascalCase source.stem.toList))
  (⟨name, .model, properties⟩, scan.stream)

end Routebook
