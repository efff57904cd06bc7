import Routebook.Proofs.Entries
import Routebook.Proofs.EntriesRel
import Routebook.Proofs.Expansion.Chain
import Routebook.Proofs.Notes.Bodies
import Routebook.Proofs.Token.First
import Routebook.Notes

namespace Routebook

/-!
# References within examples

A reference to a schema may be the body of a line, or a text within an example that the line
writes out.  The first is read from the whole line, with the keyword and the status in front of
it and the blanks at its end dropped; the second is read from the text of a JSON value.  Both
mean the same.

The part of a line in front of a body holds neither a bracket nor a parenthesis and ends in a
blank, so it hides no token and begins none.  The blanks behind a body hold no parenthesis that
closes a token.  That leaves one condition: a brace in the text would make the line an example.
-/

/-! ## Values with references -/

/-- In the second value every text of the first one with a reference in angle brackets has given
place to a value that is `shown` for it, and nothing else has changed: objects have the same keys
in the same order, lists have the same length, and all other leaves are equal. -/
inductive Json.Refers (shown : String → Json → Prop) : Json → Json → Prop
  | null : Refers shown .null .null
  | bool (value : Bool) : Refers shown (.bool value) (.bool value)
  | number (value : Number) : Refers shown (.number value) (.number value)
  | text {text : String} (plain : Token.angleReference? text.toList = none) :
    Refers shown (.text text) (.text text)
  | reference {text : String} {value : Json}
    (refers : (Token.angleReference? text.toList).isSome = true) (here : shown text value) :
    Refers shown (.text text) value
  | list {first second : List Json} (items : List.Forall₂ (Refers shown) first second) :
    Refers shown (.list first) (.list second)
  | object {first second : List (String × Json)}
    (fields : List.Forall₂ (EntryRel (Refers shown)) first second) :
    Refers shown (.object first) (.object second)

namespace Expansion

variable {shown : String → Json → Prop}

mutual

/-- References are expanded at the leaves, whatever the shape of the value is. -/
theorem refers_expandInline (expansion : Expansion)
    (leaf : ∀ text, (Token.angleReference? text.toList).isSome = true →
      shown text (expansion.expandText text)) (value : Json) :
    Json.Refers shown value (expansion.expandInline value) := by
  cases value with
  | null => exact .null
  | bool value => exact .bool value
  | number value => exact .number value
  | text value =>
    rw [expandInline]
    cases found : Token.angleReference? value.toList with
    | none =>
      rw [expandText, found]
      exact .text found
    | some reference =>
      have refers : (Token.angleReference? value.toList).isSome = true := by
        rw [found, Option.isSome_some]
      exact .reference refers (leaf value refers)
  | list items =>
    rw [expandInline]
    exact .list (refers_expandInlineItems expansion leaf items)
  | object fields =>
    rw [expandInline]
    exact .object (refers_expandInlineFields expansion leaf fields)

theorem refers_expandInlineItems (expansion : Expansion)
    (leaf : ∀ text, (Token.angleReference? text.toList).isSome = true →
      shown text (expansion.expandText text)) (items : List Json) :
    List.Forall₂ (Json.Refers shown) items (expansion.expandInlineItems items) := by
  cases items with
  | nil => exact .nil
  | cons item rest =>
    exact .cons (refers_expandInline expansion leaf item)
      (refers_expandInlineItems expansion leaf rest)

theorem refers_expandInlineFields (expansion : Expansion)
    (leaf : ∀ text, (Token.angleReference? text.toList).isSome = true →
      shown text (expansion.expandText text)) (fields : List (String × Json)) :
    List.Forall₂ (EntryRel (Json.Refers shown)) fields (expansion.expandInlineFields fields) := by
  cases fields with
  | nil => exact .nil
  | cons field rest =>
    exact .cons (.of field.1 (refers_expandInline expansion leaf field.2))
      (refers_expandInlineFields expansion leaf rest)

end

end Expansion

/-! ## References on a line -/

namespace Token

variable {text reference : List Char}

/-- The brackets of a reference are the first that opens and the last that closes. -/
theorem angleReference?_eq_some_iff :
    angleReference? text = some reference ↔
      ∃ before inner after, text = before ++ '<' :: (inner ++ '>' :: after) ∧ '<' ∉ before ∧
        '>' ∉ after ∧ inner ≠ [] ∧ reference = Text.trim inner := by
  constructor
  · intro found
    rcases Option.bind_eq_some_iff.mp found with ⟨⟨before, behind⟩, opens, rest⟩
    rcases Option.bind_eq_some_iff.mp rest with ⟨⟨inner, after⟩, closes, trimmed⟩
    rcases Text.eq_append_of_cutLastAt? closes with ⟨rfl, last⟩
    dsimp only at trimmed
    split at trimmed
    next => cases trimmed
    next filled =>
      exact ⟨before, inner, after, Text.eq_append_of_cutAt? opens, Text.not_mem_of_cutAt? opens,
        last, by simpa using filled, (Option.some.inj trimmed).symm⟩
  · rintro ⟨before, inner, after, rfl, opens, closes, filled, rfl⟩
    simp only [angleReference?, Text.cutAt?_append_cons opens,
      Text.cutLastAt?_append_cons closes, Option.bind_eq_bind, Option.bind_some]
    rw [if_neg (by simpa using filled)]

/-- A reference is found behind the hyphen of a line, if it is found in front of blanks at its
end. -/
theorem angleReference?_line {blanks : List Char} (blank : ∀ c ∈ blanks, Text.isBlank c = true)
    (found : angleReference? (text ++ blanks) = some reference) :
    angleReference? ('-' :: ' ' :: text) = some reference := by
  rcases angleReference?_eq_some_iff.mp found with
    ⟨before, inner, after, whole, opens, closes, filled, trimmed⟩
  have free : '>' ∉ blanks := fun member => absurd (blank '>' member) (by decide)
  have marked : text ++ blanks = (before ++ '<' :: inner) ++ '>' :: after := by
    rw [whole]
    simp
  rcases Text.exists_of_append_eq free marked with ⟨more, shape, rfl⟩
  refine angleReference?_eq_some_iff.mpr
    ⟨'-' :: ' ' :: before, inner, more, ?_, ?_, ?_, filled, trimmed⟩
  · rw [shape]
    simp
  · simp [opens]
  · exact fun member => closes (List.mem_append_left blanks member)

/-- The names of the filter hold no parenthesis, no hyphen and no blank. -/
theorem plain_filterTokens : ∀ name ∈ Directive.filterTokens,
    '(' ∉ name.toList ∧ '-' ∉ opening name ∧ ' ' ∉ opening name := by
  decide +kernel

/-- A token of the filter has the same value behind the hyphen of a line, and in front of blanks
at its end. -/
theorem value_line {name : String} (known : name ∈ Directive.filterTokens) (text : List Char)
    {blanks : List Char} (blank : ∀ c ∈ blanks, Text.isBlank c = true) :
    value name ('-' :: ' ' :: text) = value name (text ++ blanks) := by
  have plain := plain_filterTokens name known
  have closed : ')' ∉ blanks := fun member => absurd (blank ')' member) (by decide)
  have raw : rawValue? (opening name) none ('-' :: ' ' :: text) =
      rawValue? (opening name) none (text ++ blanks) := by
    rw [rawValue?_append plain.1 none text closed, rawValue?_cons plain.2.1 (by decide),
      rawValue?_cons plain.2.2 (by decide)]
  rw [value, value, raw]

end Token

/-- The filter of a reference is the same on a line and within an example. -/
theorem Filter.ofLine_line (text : List Char) {blanks : List Char}
    (blank : ∀ c ∈ blanks, Text.isBlank c = true) :
    Filter.ofLine ('-' :: ' ' :: text) = .ofLine (text ++ blanks) := by
  have same : ∀ name ∈ Directive.filterTokens,
      Token.value name ('-' :: ' ' :: text) = Token.value name (text ++ blanks) :=
    fun name known => Token.value_line known text blank
  rw [Filter.ofLine, Filter.ofLine, Token.listValue, Token.listValue, Token.listValue,
    same "with" (by decide), same "exclude" (by decide), same "only" (by decide),
    same "append" (by decide)]
  rfl

namespace Directive

/-- Without a brace a reference is the payload. -/
theorem splitPayload_of_angleReference? {text reference : List Char} (free : '{' ∉ text)
    (found : Token.angleReference? text = some reference) :
    (splitPayload text).1 = .reference (String.ofList reference) (.ofLine text) := by
  have first : ¬ (text.find? (fun c => c == '{' || c == '<') == some '{') = true := by
    intro brace
    exact free (List.mem_of_find?_eq_some (beq_iff_eq.mp brace))
  have payload : referencePayload? text = some (.reference (String.ofList reference) (.ofLine text),
      String.ofList (cleanDescription (withoutAngles (Token.remove filterTokens text)))) := by
    rw [referencePayload?, found]
    rfl
  rw [splitPayload, if_neg first, payload]
  rfl

/-- A text with a reference is the body of a line as it stands, without a brace. -/
theorem exists_ofLine?_responseLine {status text reference : List Char} (filled : status ≠ [])
    (solid : ∀ c ∈ status, Text.isBlank c = false)
    (found : Token.angleReference? text = some reference) (free : '{' ∉ text) :
    ∃ remark, ofLine? (responseLine status [] text) =
      some (.responseBody (String.ofList status) remark
        (.reference (String.ofList reference) (.ofLine text))) := by
  rcases Text.exists_trimEndWhere Text.isBlank text with ⟨blanks, whole, blank⟩
  have ends : ∀ c, (Text.trimEndWhere Text.isBlank text).getLast? = some c →
      Text.isBlank c = false := fun c last => Text.not_of_getLast?_trimEndWhere last
  generalize Text.trimEndWhere Text.isBlank text = bare at whole ends
  subst whole
  have behind := Token.angleReference?_line blank found
  have braceless : '{' ∉ '-' :: ' ' :: bare := by
    simpa using fun member => free (List.mem_append_left blanks member)
  have nonempty : bare ≠ [] := by
    rintro rfl
    have none : Token.angleReference? ['-', ' '] = none := by decide
    exact Option.some_ne_none _ (behind.symm.trans none)
  have payload := splitPayload_of_angleReference? braceless behind
  rw [Filter.ofLine_line bare blank] at payload
  have read := @ofLine?_responseLine_of_getLast? status [] bare filled solid nonempty ends
  have line : responseLine status [] (bare ++ blanks) = responseLine status [] bare ++ blanks := by
    simp only [responseLine, Directive.line, List.append_assoc, List.cons_append]
  refine ⟨(splitPayload ('-' :: ' ' :: bare)).2, ?_⟩
  rw [line, ofLine?_append blank, read]
  exact congrArg (some <| responseBody _ _ ·) payload

end Directive

namespace Notes

/-- The line of the body of a response. -/
def bodyLine (status payload : String) : String :=
  "@responseBody " ++ status ++ " - " ++ payload

/-- The example that a line gives to the response of a status. -/
def lineSample? (catalog : Catalog) (options : Options) (action status line : String) :
    Option Json :=
  ((ofLines catalog options action [line]).responses.get? status).bind fun response =>
    response.body.bind (·.sample)

theorem toList_bodyLine (status payload : String) :
    (bodyLine status payload).toList =
      Directive.responseLine status.toList [] payload.toList := by
  change ("@responseBody " ++ status ++ " - " ++ payload).toList = _
  rw [String.toList_append, String.toList_append, String.toList_append, List.append_assoc,
    List.append_assoc]
  rfl

variable (catalog : Catalog) (options : Options) (action : String) {status : String}

/-- The example of a line is that of its payload. -/
theorem lineSample?_of_ofLine? {line remark : String} {payload : Payload}
    (read : Directive.ofLine? line.toList = some (.responseBody status remark payload)) :
    lineSample? catalog options action status line =
      (bodyOf? (expansionOf catalog options) payload).bind (·.sample) := by
  have notes : ofLines catalog options action [line] =
      (blank action).addResponseBody (expansionOf catalog options) status remark payload := by
    have single := List.filterMap_cons_some (l := [])
      (f := fun line : String => Directive.ofLine? line.toList) read
    rw [ofLines, single]
    rfl
  rw [lineSample?, notes, addResponseBody, setResponse, Keyed.get?_insert, if_pos rfl,
    Option.bind_some]
  exact congrArg (Option.bind · _) Option.or_none

/-- An example that is written out is shown with its references expanded. -/
theorem lineSample?_example (filled : status ≠ "")
    (solid : ∀ c ∈ status.toList, Text.isBlank c = false) {raw : String}
    (opens : raw.toList.head? = some '{') (closes : raw.toList.getLast? = some '}') {value : Json}
    (read : Json.read? raw.toList = some value) :
    lineSample? catalog options action status (bodyLine status raw) =
      some ((expansionOf catalog options).expandInline value) := by
  have line : Directive.ofLine? (bodyLine status raw).toList =
      some (.responseBody status "" (.json raw)) := by
    have nonempty : raw.toList ≠ [] := by
      intro none
      rw [none] at opens
      cases opens
    have none : Directive.IsDescription [] := Or.inl rfl
    rw [toList_bodyLine, Directive.ofLine?_responseLine (by simpa using filled) solid nonempty
      (Directive.trim_example opens closes),
      Directive.splitPayload_example (Directive.plain_middle none) opens closes,
      Directive.cleanDescription_middle none]
    simp
  rw [lineSample?_of_ofLine? catalog options action line, bodyOf?, read]
  rfl

/-- A reference on a line is expanded as it is within an example. -/
theorem lineSample?_reference (filled : status ≠ "")
    (solid : ∀ c ∈ status.toList, Text.isBlank c = false) {text : String}
    (refers : (Token.angleReference? text.toList).isSome = true) (free : '{' ∉ text.toList) :
    lineSample? catalog options action status (bodyLine status text) =
      some ((expansionOf catalog options).expandText text) := by
  rcases Option.isSome_iff_exists.mp refers with ⟨reference, found⟩
  rcases Directive.exists_ofLine?_responseLine (by simpa using filled) solid found free with
    ⟨remark, read⟩
  rw [← toList_bodyLine, String.ofList_toList] at read
  rw [lineSample?_of_ofLine? catalog options action read, bodyOf?, String.toList_ofList,
    Expansion.expandText, found]
  rfl

/-- The example of a line that writes out an object is that object, in which each text with a
reference has given place to the example of the line with this text alone.  A text with a brace
would be written out itself. -/
theorem inline_references_agree (filled : status ≠ "")
    (solid : ∀ c ∈ status.toList, Text.isBlank c = false) {raw : String}
    (opens : raw.toList.head? = some '{') (closes : raw.toList.getLast? = some '}')
    {fields : List (String × Json)} (read : Json.read? raw.toList = some (.object fields)) :
    ∃ sample, lineSample? catalog options action status (bodyLine status raw) = some sample ∧
      Json.Refers
        (fun text value => '{' ∉ text.toList →
          lineSample? catalog options action status (bodyLine status text) = some value)
        (.object fields) sample := by
  refine ⟨_, lineSample?_example catalog options action filled solid opens closes read, ?_⟩
  apply Expansion.refers_expandInline
  intro text refers free
  exact lineSample?_reference catalog options action filled solid refers free

/-- A page of users, with a text that refers to nothing. -/
def pageOfUsers : String :=
  "\x7b\"data\": [\"<User>.with(posts) \", \"a > b\"], \"total\": 1\x7d"

theorem inline_references_agree_page :
    "200" ≠ "" ∧ (∀ c ∈ "200".toList, Text.isBlank c = false) ∧
      pageOfUsers.toList.head? = some '{' ∧ pageOfUsers.toList.getLast? = some '}' ∧
      Json.read? pageOfUsers.toList = some (.object [("data",
        .list [.text "<User>.with(posts) ", .text "a > b"]), ("total", .ofUInt64 1)]) ∧
      '{' ∉ "<User>.with(posts) ".toList ∧
      lineSample? .blog .default "index" "200" (bodyLine "200" pageOfUsers) =
        some (.object [("data",
          .list [.object [("id", .null), ("posts", .list [.object [("title", .text "Lorem")]])],
            .text "a > b"]), ("total", .ofUInt64 1)]) ∧
      lineSample? .blog .default "index" "200" (bodyLine "200" "<User>.with(posts) ") =
        some (.object [("id", .null), ("posts", .list [.object [("title", .text "Lorem")]])]) := by
  have filled : "200" ≠ "" := by decide
  have solid : ∀ c ∈ "200".toList, Text.isBlank c = false :=
    List.forall_iff_forall_mem.mp (by decide)
  have opens : pageOfUsers.toList.head? = some '{' := by decide
  have closes : pageOfUsers.toList.getLast? = some '}' := by decide +kernel
  have read : Json.read? pageOfUsers.toList = some (.object [("data",
      .list [.text "<User>.with(posts) ", .text "a > b"]), ("total", .ofUInt64 1)]) := by
    decide +kernel
  have free : '{' ∉ "<User>.with(posts) ".toList := by decide
  have line : lineSample? .blog .default "index" "200" (bodyLine "200" pageOfUsers) =
      some (.object [("data",
        .list [.object [("id", .null), ("posts", .list [.object [("title", .text "Lorem")]])],
          .text "a > b"]), ("total", .ofUInt64 1)]) := by
    decide +kernel
  rcases inline_references_agree .blog .default "index" filled solid opens closes read with
    ⟨sample, shown, refers⟩
  rcases Option.some.inj (line.symm.trans shown) with rfl
  refine ⟨filled, solid, opens, closes, read, free, line, ?_⟩
  -- The user stands first in the list of the first field.
  cases refers with
  | object fields =>
    rcases List.forall₂_cons.mp fields with ⟨⟨_, data⟩, _⟩
    cases data with
    | list items =>
      rcases List.forall₂_cons.mp items with ⟨user, _⟩
      cases user with
      | reference refers here => exact here free

end Notes
end Routebook
