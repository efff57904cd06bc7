import Routebook.Filter
import Routebook.Parameter

namespace Routebook

/-!
# Directives

A line of an annotation that begins with an at sign and a known keyword is a directive.  The
parts of most directives are separated by hyphens with blanks around them; tokens follow at
the end.  A directive without a part that it needs is no directive.
-/

/-- What a line says about a body. -/
inductive Payload where
  | reference (reference : String) (filter : Filter)
  /-- The text of an example that is written out. -/
  | json (raw : String)
  | none
  deriving DecidableEq

/-- What a line says about headers. -/
inductive HeaderText where
  /-- Groups of the options. -/
  | groups (names : List String)
  | single (name description tokens : String)
  deriving DecidableEq, Repr

structure ParameterTokens where
  required : Bool
  type : Option String
  sample : Option String
  choices : List String
  deriving DecidableEq, Repr

inductive Directive where
  | summary (text : String)
  | description (text : String)
  | operationId (text : String)
  | tag (text : String)
  | responseBody (status description : String) (payload : Payload)
  | responseHeader (status : String) (header : HeaderText)
  | requestBody (payload : Payload)
  | requestForm (payload : Payload)
  | parameter (location : ParameterLocation) (name : String) (description : Option String)
      (tokens : ParameterTokens)
  | parameterGroups (names : List String)
  deriving DecidableEq

namespace Directive

/-- What stands between the parts of a directive. -/
def separator : List Char := [' ', '-', ' ']

/-- The trimmed parts of a directive. -/
def parts (text : List Char) : List (List Char) :=
  (Text.piecesBetween separator text).map Text.trim

def nonEmpty? (text : List Char) : Option String :=
  if text.isEmpty then none else some (String.ofList text)

/-! ## Payloads -/

def filterTokens : List String := ["with", "exclude", "only", "append"]

/-- The parts of a description that are not empty, joined again.  Hyphens at the ends of a
part are dropped. -/
def cleanDescription (text : List Char) : List Char :=
  let pieces := (Text.piecesBetween separator text).map fun piece =>
    Text.trim (Text.trimWhere (· == '-') (Text.trim piece))
  Text.joinWith separator (pieces.filter (!·.isEmpty))

/-- The text without what stands from the first opening to the last closing angle bracket. -/
def withoutAngles (text : List Char) : List Char :=
  match Text.cutAt? '<' text with
  | none => text
  | some (before, rest) =>
    match Text.cutLastAt? '>' rest with
    | none => text
    | some (_, after) => before ++ after

/-- The text without the first occurrence of a needle. -/
def without (needle text : List Char) : List Char :=
  match Text.cut? needle text with
  | some (before, after) => before ++ after
  | none => text

def referencePayload? (text : List Char) : Option (Payload × String) := do
  let reference ← Token.angleReference? text
  let description := withoutAngles (Token.remove filterTokens text)
  some (.reference (String.ofList reference) (.ofLine text),
    String.ofList (cleanDescription description))

def jsonPayload? (text : List Char) : Option (Payload × String) := do
  let fragment ← Token.jsonFragment? text
  some (.json (String.ofList fragment), String.ofList (cleanDescription (without fragment text)))

/-- The payload of a text and the description beside it.  A brace before any angle bracket
begins an example, unless it is never closed; else an angle bracket begins a reference. -/
def splitPayload (text : List Char) : Payload × String :=
  let example? :=
    if text.find? (fun c => c == '{' || c == '<') == some '{' then jsonPayload? text else none
  ((example?).or (referencePayload? text)).getD (.none, String.ofList (cleanDescription text))

/-! ## Forms -/

def readResponseBody? (rest : List Char) : Option Directive :=
  let (status, remainder) := (Text.cutWhere? Text.isBlank rest).getD (rest, [])
  if status.isEmpty then none
  else
    let (payload, remark) := splitPayload remainder
    some (.responseBody (String.ofList status) remark payload)

/-- One header: a description that is no token, and the tokens. -/
def readHeader (name : List Char) (others : List (List Char)) : HeaderText :=
  let description :=
    match others.head? with
    | some part => if Text.startsWith ['@'] part then [] else part
    | none => []
  let tokens := if description.isEmpty then others else others.drop 1
  .single (String.ofList name) (String.ofList description)
    (String.ofList (Text.joinWith separator tokens))

/-- A status and a header, or a status and groups of headers. -/
def readResponseHeader? (rest : List Char) : Option Directive :=
  match parts rest with
  | status :: name :: others =>
    if status.isEmpty || status.contains ' ' || name.isEmpty then none
    else
      let header :=
        if Text.startsWith "@use(".toList name then .groups (Token.listValue "use" name)
        else readHeader name others
      some (.responseHeader (String.ofList status) header)
  | _ => none

/-- A name, a description that is no token, and tokens anywhere on the line. -/
def readParameter? (location : ParameterLocation) (rest : List Char) : Option Directive := do
  let parts := parts rest
  let name ← (parts.head?.map Text.words).bind List.head?
  if Text.startsWith ['@'] name then none
  else
    let description :=
      (parts[1]?.filter fun part => !part.isEmpty && !Text.startsWith ['@'] part).map
        String.ofList
    some (.parameter location (String.ofList name) description
      { required := Text.contains "@required".toList rest
        type := nonEmpty? (Token.value "type" rest)
        sample := nonEmpty? (Token.value "example" rest)
        choices := Token.listValue "enum" rest })

/-- The directive of a keyword.  `line` is the whole line and `rest` what follows the
keyword. -/
def ofKeyword? (keyword : String) (line rest : List Char) : Option Directive :=
  match keyword with
  | "summary" => (nonEmpty? rest).map .summary
  | "description" => (nonEmpty? rest).map .description
  | "operationId" => (nonEmpty? rest).map .operationId
  | "tag" => (nonEmpty? rest).map .tag
  | "responseBody" => readResponseBody? rest
  | "responseHeader" => readResponseHeader? rest
  | "requestBody" => some (.requestBody (splitPayload rest).1)
  | "requestFormDataBody" => some (.requestForm (splitPayload rest).1)
  | "paramPath" => readParameter? .path rest
  | "paramQuery" => readParameter? .query rest
  | "paramHeader" => readParameter? .header rest
  | "paramUse" => some (.parameterGroups (Token.listValue "paramUse" line))
  | _ => none

def ofLine? (line : List Char) : Option Directive :=
  match Text.trim line with
  | '@' :: text =>
    let keyword := text.takeWhile Text.isNameChar
    let rest := Text.trim (text.dropWhile Text.isNameChar)
    ofKeyword? (String.ofList keyword) ('@' :: text) rest
  | _ => none

end Directive
end Routebook
