import Routebook.Proofs.Document.Authored
import Routebook.Proofs.Notes.Mistakes
import Routebook.Proofs.Notes.Parts

namespace Routebook

/-!
# Samples of parameters and of headers

A header may be described for the request, as a parameter, and for the response.  Both lines end
in the same two tokens, a type and an example, and both descriptions have a schema object of the
type.  The samples come on different ways: that of a parameter is read from the line as it is and
for the type as it is written, that of a response is read from parts that were trimmed and joined
again and for the type as the document names it.

So the types and the formats of the two always agree, and the samples agree exactly if an example
means the same for both types and with the blanks around its hyphens made single.  A sample that
is null is shown for a response only.
-/

/-! ## Types of samples -/

namespace Sample

/-- The type of a sample counts only for whether numbers or truth values are read. -/
theorem coerce_congr {first second : String} (numeric : isNumeric first = isNumeric second)
    (boolean : (first == "boolean") = (second == "boolean")) (raw : List Char) :
    coerce raw first = coerce raw second := by
  unfold coerce
  rw [numeric, boolean]

end Sample

namespace Directive

/-! ## Parts that are joined again -/

/-- Pieces joined by separators, with the blanks around the separators dropped. -/
def joinTidy : List Char → List (List Char) → List Char
  | first, [] => first
  | first, second :: others =>
    Text.trimEnd first ++ (separator ++ joinTidy (Text.trimStart second) others)

/-- A text with single blanks around its separators, as it is read between parentheses. -/
def tidy (text : List Char) : List Char :=
  match Text.piecesBetween separator text with
  | [] => []
  | first :: others => joinTidy first others

/-- A text without separators is tidy. -/
theorem tidy_of_free {text : List Char} (free : ¬ separator <:+: text) : tidy text = text := by
  rw [tidy, Text.piecesBetween_of_free free]
  rfl

/-- Only blanks are dropped. -/
theorem joinTidy_sublist (first : List Char) (others : List (List Char)) :
    (joinTidy first others).Sublist (Text.joinWith separator (first :: others)) := by
  induction others generalizing first with
  | nil =>
    rw [joinTidy, Text.joinWith_singleton]
  | cons second others inductionHypothesis =>
    have front : (Text.trimEnd first).Sublist first :=
      (Text.trimEndWhere_isPrefix Text.isBlank first).sublist
    have behind : (Text.joinWith separator (Text.trimStart second :: others)).Sublist
        (Text.joinWith separator (second :: others)) := by
      conv_rhs => rw [← List.takeWhile_append_dropWhile (p := Text.isBlank) (l := second)]
      rw [Text.joinWith_append_cons]
      exact List.sublist_append_right _ _
    rw [joinTidy, Text.joinWith_cons (List.cons_ne_nil second others)]
    exact front.append ((List.Sublist.refl separator).append
      ((inductionHypothesis _).trans behind))

theorem tidy_sublist (text : List Char) : (tidy text).Sublist text := by
  obtain ⟨first, others, cut⟩ := List.exists_cons_of_ne_nil
    (Text.piecesBetween_ne_nil separator text)
  have whole := Text.joinWith_piecesBetween separator_ne_nil text
  rw [cut] at whole
  rw [tidy, cut]
  exact whole ▸ joinTidy_sublist first others

theorem tidy_ne_nil {text : List Char} (filled : text ≠ []) : tidy text ≠ [] := by
  obtain ⟨first, others, cut⟩ := List.exists_cons_of_ne_nil
    (Text.piecesBetween_ne_nil separator text)
  rw [tidy, cut]
  cases others with
  | nil =>
    have whole := Text.joinWith_piecesBetween separator_ne_nil text
    rw [cut, Text.joinWith_singleton] at whole
    exact whole ▸ filled
  | cons second others =>
    exact List.append_ne_nil_of_right_ne_nil _
      (List.append_ne_nil_of_left_ne_nil separator_ne_nil _)

theorem joinTidy_append_cons {c : Char} (solid : Text.isBlank c = false) (front first : List Char)
    (others : List (List Char)) :
    joinTidy (front ++ c :: first) others = front ++ c :: joinTidy first others := by
  cases others with
  | nil => rfl
  | cons second others =>
    rw [joinTidy, joinTidy, Text.trimEnd, Text.trimEndWhere_append_cons solid]
    simp [Text.trimEnd]

/-- A closing character keeps the blanks in front of it. -/
theorem joinWith_map_trim_concat {c : Char} (solid : Text.isBlank c = false)
    {front : List (List Char)} {first last : List Char} {others : List (List Char)}
    (shape : first :: others = front ++ [last]) :
    Text.joinWith separator ((front ++ [last ++ [c]]).map Text.trim) =
      joinTidy (Text.trimStart first) others ++ [c] := by
  induction front generalizing first others with
  | nil =>
    obtain ⟨rfl, rfl⟩ := List.cons.inj shape
    rw [List.nil_append, List.map_singleton, Text.joinWith_singleton, Text.trim,
      Text.trimWhere_concat_of_not solid]
    rfl
  | cons other front inductionHypothesis =>
    obtain ⟨rfl, behind⟩ := List.cons.inj shape
    obtain ⟨second, later, more⟩ := List.exists_cons_of_ne_nil
      (List.append_ne_nil_of_right_ne_nil front (List.cons_ne_nil last []))
    have tail := inductionHypothesis more.symm
    have nonempty : (front ++ [last ++ [c]]).map Text.trim ≠ [] := by simp
    have whole : others = second :: later := behind.trans more
    rw [List.cons_append, List.map_cons, Text.joinWith_cons nonempty, tail, whole, joinTidy]
    simp [Text.trim, Text.trimWhere, Text.trimEnd, Text.trimStart]

/-- What stands in the last parentheses of a line is tidy when the parts of the line are joined
again. -/
theorem joinWith_parts_parenthesis {front : List Char} (free : ¬ separator <:+: front)
    (begins : ∀ c, front.head? = some c → Text.isBlank c = false) (text : List Char) :
    Text.joinWith separator (parts (front ++ '(' :: (text ++ [')']))) =
      front ++ '(' :: (tidy text ++ [')']) := by
  obtain ⟨first, others, cut⟩ := List.exists_cons_of_ne_nil
    (Text.piecesBetween_ne_nil separator text)
  have start : Text.trimStart (front ++ '(' :: first) = front ++ '(' :: first := by
    have solid : Text.isBlank '(' = false := by decide
    rw [Text.trimStart, Text.trimStartWhere]
    cases front with
    | nil => rw [List.nil_append, List.dropWhile_cons_of_neg (by simp [solid])]
    | cons c front =>
      rw [List.cons_append, List.dropWhile_cons_of_neg (by simp [begins c rfl])]
  obtain ⟨early, last, shape, whole⟩ : ∃ early last,
      (front ++ '(' :: first) :: others = early ++ [last] ∧
      Text.piecesBetween separator (front ++ '(' :: (text ++ [')'])) =
        early ++ [last ++ [')']] := by
    obtain ⟨early, last, pieces, closed⟩ :=
      Text.piecesBetween_concat separator_ne_nil (by decide : ')' ∉ separator) text
    rw [cut] at pieces
    cases early with
    | nil =>
      obtain ⟨rfl, rfl⟩ := List.cons.inj pieces
      refine ⟨[], _, rfl, ?_⟩
      rw [Text.piecesBetween_append_cons (by decide) free closed]
      simp
    | cons other early =>
      obtain ⟨rfl, rfl⟩ := List.cons.inj pieces
      refine ⟨(front ++ '(' :: first) :: early, last, rfl, ?_⟩
      rw [Text.piecesBetween_append_cons (by decide) free closed]
      rfl
  rw [parts, whole, joinWith_map_trim_concat (by decide) shape, start,
    joinTidy_append_cons (by decide), tidy, cut]
  simp

/-! ## Described headers -/

/-- A header with a type and an example that can be written on a line.  The name of a header
begins with no at sign. -/
structure DescribedHeader where
  name : String
  type : String
  sample : String
  filled : name ≠ "" ∧ type ≠ "" ∧ sample ≠ ""
  named : ∀ c ∈ name.toList, Text.isBlank c = false ∧ c ≠ '('
  apart : name.toList.head? ≠ some '@'
  typed : ∀ c ∈ type.toList, Text.isBlank c = false ∧ c ∉ ['(', ')']
  sampled : ∀ c ∈ sample.toList, c ∉ ['(', ')']

namespace DescribedHeader

/-- The tokens of an example of the type. -/
def tokens (header : DescribedHeader) (sample : List Char) : List Token.Written :=
  [⟨"type", header.type.toList⟩, ⟨"example", sample⟩]

/-- The tokens as they are written. -/
def tokenText (header : DescribedHeader) (sample : List Char) : List Char :=
  '@' :: (Token.opening "type" ++ (header.type.toList ++ ')' :: ' ' :: '@' ::
    (Token.opening "example" ++ (sample ++ [')']))))

/-- The line that describes the header of a request. -/
def parameterLine (header : DescribedHeader) : List Char :=
  line "paramHeader" (joinParts [header.name.toList, header.tokenText header.sample.toList])

/-- The line that describes the header of a response. -/
def headerLine (header : DescribedHeader) : List Char :=
  line "responseHeader"
    (joinParts ["200".toList, header.name.toList, header.tokenText header.sample.toList])

/-! ## Reading the tokens -/

variable (header : DescribedHeader)

theorem cons_tokenText (sample : List Char) :
    ' ' :: header.tokenText sample = Token.row [' '] '@' (header.tokens sample) := by
  simp [tokenText, tokens, Token.row]

section Tokens

variable {sample head : List Char}

theorem among_tokens (plain : ∀ c ∈ sample, c ∉ ['(', ')']) :
    ∀ token ∈ header.tokens sample, token.Among ParameterTokens.names := by
  have typed : ∀ c ∈ header.type.toList, c ∉ ['(', ')'] := fun c member =>
    (header.typed c member).2
  intro token member
  simp only [tokens, List.mem_cons, List.not_mem_nil, or_false] at member
  rcases member with rfl | rfl
  · exact ⟨List.mem_cons_self, fun inside => typed _ inside (by decide),
      fun inside => typed _ inside (by decide)⟩
  · exact ⟨by simp [ParameterTokens.names], fun inside => plain _ inside (by decide),
      fun inside => plain _ inside (by decide)⟩

/-- Behind a text without a parenthesis the tokens are read as they are written. -/
theorem value_tokenText (free : '(' ∉ head) (plain : ∀ c ∈ sample, c ∉ ['(', ')']) :
    Token.value "type" (head ++ ' ' :: header.tokenText sample) = header.type.toList ∧
      Token.value "example" (head ++ ' ' :: header.tokenText sample) = sample ∧
      Token.listValue "enum" (head ++ ' ' :: header.tokenText sample) = [] := by
  have read : ∀ name ∈ ParameterTokens.names,
      Token.rawValue? (Token.opening name) none (head ++ ' ' :: header.tokenText sample) =
        ((header.tokens sample).find? (·.name == name)).map (·.value) := by
    intro name known
    rw [header.cons_tokenText]
    exact Token.rawValue?_row ParameterTokens.apartBehind_names free (by decide) known
      (header.among_tokens plain)
  have solid : header.type.toList.filter (!Text.isBlank ·) = header.type.toList := by
    rw [List.filter_eq_self]
    intro c inside
    rw [(header.typed c inside).1, Bool.not_false]
  refine ⟨?_, ?_, ?_⟩
  · rw [Token.value, read "type" (by decide)]
    exact solid
  · rw [Token.value, read "example" (by decide)]
    rfl
  · rw [Token.listValue, Token.value, read "enum" (by decide)]
    rfl

/-- The tokens are read at the start of a text as well. -/
theorem value_tokenText_start (plain : ∀ c ∈ sample, c ∉ ['(', ')']) :
    Token.value "type" (header.tokenText sample) = header.type.toList ∧
      Token.value "example" (header.tokenText sample) = sample := by
  have same : ∀ name, ' ' ∉ Token.opening name →
      Token.value name (header.tokenText sample) =
        Token.value name (' ' :: header.tokenText sample) := by
    intro name apart
    rw [Token.value, Token.value, Token.rawValue?_cons apart (by decide)]
  have free : '(' ∉ ([] : List Char) := List.not_mem_nil
  have read := header.value_tokenText free plain
  rw [same "type" (by decide), same "example" (by decide)]
  exact ⟨read.1, read.2.1⟩

end Tokens

/-! ## Reading the lines -/

theorem name_ne_nil : header.name.toList ≠ [] := by
  simpa using header.filled.1

theorem isParted_name : IsParted header.name.toList :=
  .of_solid fun c member => (header.named c member).1

theorem tokenText_ne_nil (sample : List Char) : header.tokenText sample ≠ [] :=
  List.cons_ne_nil _ _

theorem trim_tokenText (sample : List Char) :
    Text.trim (header.tokenText sample) = header.tokenText sample := by
  have last : (header.tokenText sample).getLast? = some ')' := by
    have shape : header.tokenText sample = ('@' :: (Token.opening "type" ++ header.type.toList ++
        ')' :: ' ' :: '@' :: (Token.opening "example" ++ sample))) ++ [')'] := by
      simp [tokenText]
    rw [shape, List.getLast?_concat]
  apply Text.trim_eq_self
  · intro c first
    exact Option.some.inj first ▸ by decide
  · intro c ends
    rw [last] at ends
    exact Option.some.inj ends ▸ by decide

/-- The line of a keyword and parts with tokens behind them is read as what the parts say. -/
theorem ofLine?_tokenText {keyword : String} {front : List (List Char)}
    (word : ∀ c ∈ keyword.toList, Text.isNameChar c = true)
    (parted : ∀ text ∈ front, IsParted text) (nonempty : front.filter (!·.isEmpty) ≠ [])
    (sample : List Char) :
    ofLine? (line keyword (joinParts (front ++ [header.tokenText sample]))) =
      ofKeyword? keyword (line keyword (joinParts (front ++ [header.tokenText sample])))
        (joinParts (front ++ [header.tokenText sample])) := by
  have blank : ∀ c ∈ ([] : List Char), Text.isBlank c = true := fun _ member =>
    absurd member List.not_mem_nil
  have read := ofLine?_joinParts word parted nonempty (header.trim_tokenText sample) blank
    fun _ => rfl
  rwa [List.append_nil] at read

/-- The parts of the line: those in front of the tokens, and the tokens, which may hold
separators. -/
theorem parts_joinParts_tokenText {front : List (List Char)}
    (parted : ∀ text ∈ front, IsParted text) (nonempty : front.filter (!·.isEmpty) ≠ [])
    (sample : List Char) :
    parts (joinParts (front ++ [header.tokenText sample])) =
      front.filter (!·.isEmpty) ++ parts (header.tokenText sample) := by
  rw [parts_joinParts parted nonempty, if_neg (header.tokenText_ne_nil sample)]

theorem filter_name : [header.name.toList].filter (!·.isEmpty) = [header.name.toList] :=
  List.filter_cons_of_pos (by simpa using header.name_ne_nil)

theorem joinParts_name :
    joinParts ([header.name.toList] ++ [header.tokenText header.sample.toList]) =
      (header.name.toList ++ " -".toList) ++ ' ' :: header.tokenText header.sample.toList := by
  have nonempty : [header.name.toList].filter (!·.isEmpty) ≠ [] := by
    rw [header.filter_name]
    exact List.cons_ne_nil _ _
  rw [joinParts_concat _ nonempty, if_neg (header.tokenText_ne_nil _), joinParts,
    header.filter_name, Text.joinWith_singleton]
  simp [separator]

/-- The line of a request is read as a parameter without a description. -/
theorem ofLine?_parameterLine : ∃ required,
    ofLine? header.parameterLine = some (.parameter .header header.name none
      ⟨required, some header.type, some header.sample, []⟩) := by
  have parted : ∀ text ∈ [header.name.toList], IsParted text := fun text member =>
    List.mem_singleton.mp member ▸ header.isParted_name
  have nonempty : [header.name.toList].filter (!·.isEmpty) ≠ [] := by
    rw [header.filter_name]
    exact List.cons_ne_nil _ _
  have word := List.all_eq_true.mp (by decide : "paramHeader".toList.all Text.isNameChar = true)
  have cut := header.parts_joinParts_tokenText parted nonempty header.sample.toList
  obtain ⟨first, others, marked⟩ : ∃ first others,
      parts (header.tokenText header.sample.toList) = ('@' :: first) :: others :=
    parts_cons_at _
  have free : '(' ∉ header.name.toList ++ " -".toList := by
    simp only [List.mem_append, not_or]
    exact ⟨fun inside => (header.named _ inside).2 rfl, by decide⟩
  have read := header.value_tokenText free header.sampled
  have named : ¬ Text.startsWith ['@'] header.name.toList = true := by
    rw [Text.startsWith_singleton_iff]
    exact header.apart
  refine ⟨Text.contains "@required".toList
    ((header.name.toList ++ " -".toList) ++ ' ' :: header.tokenText header.sample.toList), ?_⟩
  refine (header.ofLine?_tokenText word parted nonempty _).trans ?_
  change readParameter? .header _ = _
  rw [readParameter?, cut, header.filter_name, marked, header.joinParts_name, read.1, read.2.1,
    read.2.2]
  simp only [List.singleton_append, List.head?_cons, Option.map_some, Option.bind_some,
    Text.words_of_solid header.name_ne_nil fun c member => (header.named c member).1,
    Option.bind_eq_bind]
  rw [if_neg named]
  have typed : nonEmpty? header.type.toList = some header.type := by
    simp [nonEmpty?, header.filled.2.1]
  have sampled : nonEmpty? header.sample.toList = some header.sample := by
    simp [nonEmpty?, header.filled.2.2]
  rw [typed, sampled, String.ofList_toList]
  rfl

/-- The tokens with single blanks around the hyphens in the example. -/
theorem joinWith_parts_tokenText (sample : List Char) :
    Text.joinWith separator (parts (header.tokenText sample)) = header.tokenText (tidy sample) := by
  have shape : ∀ text, header.tokenText text =
      (('@' :: (Token.opening "type" ++ header.type.toList ++ [')'])) ++
        ' ' :: '@' :: "example".toList) ++ '(' :: (text ++ [')']) := by
    intro text
    simp [tokenText, Token.opening]
  have solid : ' ' ∉ '@' :: (Token.opening "type" ++ header.type.toList ++ [')']) := by
    have blank : Text.isBlank ' ' = true := by decide
    have plain : ' ' ∉ '@' :: Token.opening "type" := by decide
    rw [← List.cons_append, ← List.cons_append, List.mem_append, List.mem_append]
    rintro ((mark | inside) | mark)
    · exact plain mark
    · exact absurd blank (by simp [(header.typed _ inside).1])
    · exact absurd mark (by decide)
  have free : ¬ separator <:+: ('@' :: (Token.opening "type" ++ header.type.toList ++ [')'])) ++
      ' ' :: '@' :: "example".toList := by
    rw [separator, Text.infix_append_iff_of_cons solid]
    decide
  rw [shape, joinWith_parts_parenthesis free, shape]
  intro c first
  exact Option.some.inj first ▸ by decide

/-- The line of a response is read as a header without a description. -/
theorem ofLine?_headerLine : ofLine? header.headerLine =
    some (.responseHeader "200" (.single header.name ""
      (String.ofList (header.tokenText (tidy header.sample.toList))))) := by
  have parted : ∀ text ∈ ["200".toList, header.name.toList], IsParted text := by
    intro text member
    simp only [List.mem_cons, List.not_mem_nil, or_false] at member
    rcases member with rfl | rfl
    · exact .of_solid (List.forall_iff_forall_mem.mp (by decide))
    · exact header.isParted_name
  have kept : ["200".toList, header.name.toList].filter (!·.isEmpty) =
      ["200".toList, header.name.toList] := by
    rw [List.filter_cons_of_pos (by decide), header.filter_name]
  have nonempty : ["200".toList, header.name.toList].filter (!·.isEmpty) ≠ [] := by
    rw [kept]
    exact List.cons_ne_nil _ _
  have word := List.all_eq_true.mp (by decide : "responseHeader".toList.all Text.isNameChar = true)
  have cut := header.parts_joinParts_tokenText parted nonempty header.sample.toList
  have marks : ∀ part, (parts (header.tokenText header.sample.toList)).head? = some part →
      part.head? = some '@' := by
    intro part first
    have marked : ∃ rest, header.tokenText header.sample.toList = '@' :: rest := ⟨_, rfl⟩
    refine head?_eq_at_of_marked (.inr marked) ?_
    rwa [if_neg (header.tokenText_ne_nil _)]
  have status : ¬ ("200".toList.isEmpty || "200".toList.contains ' ' ||
      header.name.toList.isEmpty) = true := by
    have filled : header.name.toList.isEmpty = false := by
      simpa using header.name_ne_nil
    rw [filled]
    decide
  have single : ¬ Text.startsWith "@use(".toList header.name.toList = true := by
    rw [Text.startsWith_iff]
    rintro ⟨rest, whole⟩
    exact header.apart (by rw [← whole]; rfl)
  have silent : ([] : List Char).head? ≠ some '@' := by decide
  have read := @WrittenHeader.readHeader_append header.name.toList [] _ silent marks
  rw [header.joinWith_parts_tokenText, List.filter_cons_of_neg (by decide), List.filter_nil,
    List.nil_append] at read
  refine (header.ofLine?_tokenText word parted nonempty _).trans ?_
  change readResponseHeader? _ = _
  rw [readResponseHeader?, cut, kept]
  dsimp only [List.cons_append, List.nil_append]
  rw [if_neg status, if_neg single, read, String.ofList_toList, String.ofList_toList]

/-! ## Schemas -/

/-- The type that the document names. -/
def emittedType : String :=
  (SchemaObject.ofWrittenType header.type.toList).type.getD ""

/-- The schema object of the type with a sample. -/
def schema (sample : Option Json) : SchemaObject :=
  { SchemaObject.ofWrittenType header.type.toList with sample := sample }

theorem headerSchema_tokenText {sample : List Char} (filled : sample ≠ [])
    (plain : ∀ c ∈ sample, c ∉ ['(', ')']) :
    Notes.headerSchema (header.tokenText sample) =
      header.schema (some (Sample.coerce sample header.emittedType)) := by
  have read := header.value_tokenText_start plain
  have typed : header.type.toList.isEmpty = false := by
    simpa using header.filled.2.1
  have sampled : sample.isEmpty = false := by
    simpa using filled
  rw [Notes.headerSchema, read.1, read.2, typed, sampled, schema, emittedType]
  simp only [Bool.false_eq_true, if_false]

/-- A schema object shows its sample. -/
theorem get?_example_schema (sample : Option Json) :
    (header.schema sample).toJson.get? "example" = sample := by
  unfold schema SchemaObject.ofWrittenType
  cases builtinType? header.type.toList with
  | none => cases sample <;> rfl
  | some builtin => rcases builtin with ⟨name, _ | format⟩ <;> cases sample <;> rfl

theorem toJson_schema_inj {first second : Option Json} :
    (header.schema first).toJson = (header.schema second).toJson ↔ first = second := by
  refine ⟨fun same => ?_, fun same => same ▸ rfl⟩
  rw [← header.get?_example_schema first, same, header.get?_example_schema]

/-- The sample of the header of a request. -/
def sent : Json :=
  Sample.coerce header.sample.toList header.type

/-- The sample of the header of a response. -/
def answered : Json :=
  Sample.coerce (tidy header.sample.toList) header.emittedType

/-- A written type lists no allowed values. -/
theorem schema_eq (sample : Option Json) :
    header.schema sample =
      { SchemaObject.ofWrittenType header.type.toList with sample := sample, choices := none } := by
  unfold schema SchemaObject.ofWrittenType
  cases builtinType? header.type.toList <;> rfl

/-- The parameter that the line of a request declares. -/
def parameter (required : Bool) : Parameter :=
  Notes.parameterOf .header header.name none ⟨required, some header.type, some header.sample, []⟩

theorem schema_parameter (required : Bool) :
    (header.parameter required).toDocument.get? "schema" =
      some (header.schema (if header.sent.isNull then none else some header.sent)).toJson := by
  rw [schema_eq]
  rfl

end DescribedHeader

end Directive

namespace Operation

/-- The responses of an annotation are kept. -/
theorem get?_mergeResponses_of_some {notes : Notes} {status : String} {response : Response}
    (noted : notes.responses.get? status = some response) (method : Method) (secured : Bool) :
    (mergeResponses method secured (some notes)).get? status = some response := by
  have entries := entries_foldl_addMissing (nodup_expectedStatuses method secured) notes.responses
  have found : entryAt? status notes.responses.entries = some response := noted
  rw [mergeResponses, Option.map_some, Option.getD_some, Keyed.get?, entries, entryAt?_append,
    found, Option.some_or]

end Operation

namespace Directive.DescribedHeader

section Operations

variable (header : DescribedHeader) (catalog : Catalog) (options : Options) (action : String)
  (lines : List String)

theorem ofLines_concat {line : List Char} {directive : Directive}
    (read : ofLine? line = some directive) :
    Notes.ofLines catalog options action (lines ++ [String.ofList line]) =
      (Notes.ofLines catalog options action lines).apply (Notes.expansionOf catalog options) options
        directive := by
  have written : ofLine? (String.ofList line).toList = some directive := by
    rw [String.toList_ofList, read]
  exact Notes.ofLines_append_cons_of_some catalog options action lines [] written

/-- The line of a request puts a parameter into the annotation. -/
theorem get?_parameters : ∃ required,
    (Notes.ofLines catalog options action
        (lines ++ [String.ofList header.parameterLine])).parameters.get? header.name =
      some (header.parameter required) := by
  obtain ⟨required, declared⟩ := header.ofLine?_parameterLine
  refine ⟨required, ?_⟩
  rw [ofLines_concat catalog options action lines declared, Notes.parameters_apply]
  exact (Keyed.get?_insert _ _ _ _).trans (if_pos rfl)

/-- The line of a response puts a header into the annotation. -/
theorem get?_headers : ∃ response,
    (Notes.ofLines catalog options action
        (lines ++ [String.ofList header.headerLine])).responses.get? "200" = some response ∧
      response.headers.get? header.name = some ⟨"", header.schema (some header.answered)⟩ := by
  have plain : ∀ c ∈ tidy header.sample.toList, c ∉ ['(', ')'] := fun c member =>
    header.sampled c ((tidy_sublist _).subset member)
  have filled : tidy header.sample.toList ≠ [] :=
    tidy_ne_nil (by simpa using header.filled.2.2)
  have described := header.headerSchema_tokenText filled plain
  rw [ofLines_concat catalog options action lines header.ofLine?_headerLine, Notes.apply,
    Notes.addHeaders, Notes.setResponse, Notes.headersOf, String.toList_ofList, described]
  refine ⟨_, (Keyed.get?_insert _ _ _ _).trans (if_pos rfl), ?_⟩
  exact (Keyed.get?_insert _ _ _ _).trans (if_pos rfl)

end Operations

/-- The sample of the written type is the sample of the type of the document if both types ask
for the same kind of value and the example holds no separator. -/
theorem sent_eq_answered (header : DescribedHeader)
    (numeric : Sample.isNumeric header.type = Sample.isNumeric header.emittedType)
    (boolean : (header.type == "boolean") = (header.emittedType == "boolean"))
    (free : ¬ separator <:+: header.sample.toList) : header.sent = header.answered := by
  rw [sent, answered, tidy_of_free free]
  exact Sample.coerce_congr numeric boolean _

/-- The header of a request and the header of a response have the same type and format.  They
have the same schema exactly if the example means the same for the written type as it is and for
the type of the document with its hyphens tidied, and is not null.  So they have if the written
type asks for the same kind of sample as the type of the document, and the example holds no
separator. -/
theorem header_schemas_agree_iff (header : DescribedHeader) (catalog : Catalog)
    (options : Options) (action : String) (lines : List String) (route : Route) (method : Method) :
    let notes := fun line : List Char =>
      Notes.ofLines catalog options action (lines ++ [String.ofList line])
    let operation := fun line => Operation.of options route method (some (notes line))
    ∃ parameter response answer,
      (Operation.mergeParameters route (some (notes header.parameterLine))).get? header.name =
        some parameter ∧
      parameter ∈ (operation header.parameterLine).parameters ∧
      (operation header.headerLine).responses.get? "200" = some response ∧
      response.headers.get? header.name = some answer ∧
      parameter.name = header.name ∧ parameter.location = .header ∧
      parameter.toDocument.get? "schema" =
        some (header.schema (if header.sent.isNull then none else some header.sent)).toJson ∧
      answer.toJson.get? "schema" = some (header.schema (some header.answered)).toJson ∧
      (parameter.toDocument.get? "schema" = answer.toJson.get? "schema" ↔
        header.sent = header.answered ∧ header.sent.isNull = false) ∧
      (Sample.isNumeric header.type = Sample.isNumeric header.emittedType →
        (header.type == "boolean") = (header.emittedType == "boolean") →
        ¬ separator <:+: header.sample.toList → header.sent.isNull = false →
          parameter.toDocument.get? "schema" = answer.toJson.get? "schema") := by
  intro notes operation
  obtain ⟨required, noted⟩ := header.get?_parameters catalog options action lines
  obtain ⟨response, known, answer⟩ := header.get?_headers catalog options action lines
  have merged : (Operation.mergeParameters route (some (notes header.parameterLine))).get?
      header.name = some (header.parameter required) := by
    rw [Operation.get?_mergeParameters]
    exact (congrArg (Option.or · _) noted).trans Option.some_or
  have sentSchema := header.schema_parameter required
  have agree : (some (header.schema (if header.sent.isNull then none else some header.sent)).toJson
      = some (header.schema (some header.answered)).toJson) ↔
        header.sent = header.answered ∧ header.sent.isNull = false := by
    rw [Option.some.injEq, header.toJson_schema_inj]
    cases null : header.sent.isNull <;> simp
  refine ⟨_, response, _, merged, Keyed.mem_values_of_get? merged,
    Operation.get?_mergeResponses_of_some known method _, answer, rfl, rfl, sentSchema, rfl, ?_, ?_⟩
  · rw [sentSchema]
    exact agree
  · intro numeric boolean free shown
    rw [sentSchema]
    exact agree.mpr ⟨header.sent_eq_answered numeric boolean free, shown⟩

/-- A header whose type is written as the document names it. -/
def limitHeader : DescribedHeader where
  name := "X-Limit"
  type := "integer"
  sample := "5"
  filled := by decide
  named := List.forall_iff_forall_mem.mp (by decide)
  apart := by decide
  typed := List.forall_iff_forall_mem.mp (by decide)
  sampled := List.forall_iff_forall_mem.mp (by decide)

/-- The same header with another spelling of its type. -/
def spelledHeader : DescribedHeader where
  name := "X-Limit"
  type := "Integer"
  sample := "5"
  filled := by decide
  named := List.forall_iff_forall_mem.mp (by decide)
  apart := by decide
  typed := List.forall_iff_forall_mem.mp (by decide)
  sampled := List.forall_iff_forall_mem.mp (by decide)

/-- A header whose example has two blanks behind a hyphen. -/
def spacedHeader : DescribedHeader where
  name := "X-Range"
  type := "string"
  sample := "1 -  5"
  filled := by decide
  named := List.forall_iff_forall_mem.mp (by decide)
  apart := by decide
  typed := List.forall_iff_forall_mem.mp (by decide)
  sampled := List.forall_iff_forall_mem.mp (by decide)

/-- A header whose example is too large for a number. -/
def largeHeader : DescribedHeader where
  name := "X-Limit"
  type := "number"
  sample := "1e309"
  filled := by decide
  named := List.forall_iff_forall_mem.mp (by decide)
  apart := by decide
  typed := List.forall_iff_forall_mem.mp (by decide)
  sampled := List.forall_iff_forall_mem.mp (by decide)

/-- The request for all users. -/
def listUsers : Route :=
  .of "/users" ["GET"] [] (.controller "users" "index") 2

/-- The annotation that consists of a line. -/
def notesOf (line : List Char) : Notes :=
  Notes.ofLines .initial .default "index" [String.ofList line]

/-- The schema of a parameter in the operation that a line describes. -/
def parameterSchema? (name : String) (line : List Char) : Option Json :=
  ((Operation.mergeParameters listUsers (some (notesOf line))).get? name).bind
    (·.toDocument.get? "schema")

/-- The schema of a header in the response that a line describes. -/
def headerSchema? (name : String) (line : List Char) : Option Json :=
  ((Operation.of .default listUsers .get (some (notesOf line))).responses.get? "200").bind
    fun response => (response.headers.get? name).bind (·.toJson.get? "schema")

theorem header_schemas_agree_limit :
    limitHeader.parameterLine = "@paramHeader X-Limit - @type(integer) @example(5)".toList ∧
      limitHeader.headerLine =
        "@responseHeader 200 - X-Limit - @type(integer) @example(5)".toList ∧
      parameterSchema? "X-Limit" limitHeader.parameterLine =
        headerSchema? "X-Limit" limitHeader.headerLine ∧
      parameterSchema? "X-Limit" limitHeader.parameterLine =
        some (.object [("type", .text "integer"), ("example", .ofUInt64 5)]) := by
  obtain ⟨parameter, response, answer, declared, -, responds, answers, -, -, -, -, -, agree⟩ :=
    header_schemas_agree_iff limitHeader .initial .default "index" [] listUsers .get
  have same := agree (by decide +kernel) (by decide +kernel) (by decide +kernel)
    (by decide +kernel)
  refine ⟨by decide +kernel, by decide +kernel, ?_, by decide +kernel⟩
  have left : parameterSchema? "X-Limit" limitHeader.parameterLine =
      parameter.toDocument.get? "schema" := congrArg (Option.bind · _) declared
  have right : headerSchema? "X-Limit" limitHeader.headerLine = answer.toJson.get? "schema" := by
    refine (congrArg (Option.bind · _) responds).trans ?_
    exact congrArg (Option.bind · _) answers
  rw [left, right, same]

/-- The parameter shows a text for an integer that is spelled in capitals, keeps blanks that the
header loses, and shows no sample where the header shows null. -/
theorem schemas_differ_for_spelled_integer :
    (¬ ∀ header : DescribedHeader, parameterSchema? header.name header.parameterLine =
      headerSchema? header.name header.headerLine) ∧
    spelledHeader.parameterLine = "@paramHeader X-Limit - @type(Integer) @example(5)".toList ∧
      spelledHeader.headerLine =
        "@responseHeader 200 - X-Limit - @type(Integer) @example(5)".toList ∧
      parameterSchema? "X-Limit" spelledHeader.parameterLine =
        some (.object [("type", .text "integer"), ("example", .text "5")]) ∧
      headerSchema? "X-Limit" spelledHeader.headerLine =
        some (.object [("type", .text "integer"), ("example", .ofUInt64 5)]) ∧
      parameterSchema? "X-Range" spacedHeader.parameterLine =
        some (.object [("type", .text "string"), ("example", .text "1 -  5")]) ∧
      headerSchema? "X-Range" spacedHeader.headerLine =
        some (.object [("type", .text "string"), ("example", .text "1 - 5")]) ∧
      parameterSchema? "X-Limit" largeHeader.parameterLine =
        some (.object [("type", .text "number")]) ∧
      headerSchema? "X-Limit" largeHeader.headerLine =
        some (.object [("type", .text "number"), ("example", .null)]) := by
  refine ⟨fun agree => ?_, by decide +kernel⟩
  have same := agree spelledHeader
  revert same
  decide +kernel

end Directive.DescribedHeader

end Routebook
