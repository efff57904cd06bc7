import Routebook.Proofs.Notes.Bodies

namespace Routebook
namespace Directive

/-!
# Written parameters and headers

A parameter or a header is written as parts with separators between them, and a part that is
absent is left out together with its separator.  What is behind a name is then told by its first
character only: a part that begins with an at sign is no description.  The tokens are the last
part, because an example may hold separators itself.
-/

/-! ## Parts -/

/-- A part of a line that more parts may follow. -/
structure IsParted (text : List Char) : Prop where
  trimmed : Text.trim text = text
  apart : ¬ separator <:+: text ++ separator.dropLast

/-- A text that holds no separator and does not end where one may begin. -/
structure IsPhrase (text : String) : Prop where
  trimmed : Text.trim text.toList = text.toList
  free : ¬ separator <:+: text.toList
  last : text.toList.getLast? ≠ some '-'

theorem IsParted.of_solid {text : List Char} (solid : ∀ c ∈ text, Text.isBlank c = false) :
    IsParted text where
  trimmed := Text.trim_of_solid solid
  apart := by
    intro held
    have blank : Text.isBlank ' ' = true := by decide
    have free : ' ' ∉ text := fun member => absurd (solid ' ' member) (by simp [blank])
    rw [separator, Text.infix_append_iff_of_cons free] at held
    exact absurd held.length_le (by decide)

theorem IsPhrase.isParted {text : String} (is : IsPhrase text) : IsParted text.toList :=
  ⟨is.trimmed, not_infix_append_separator is.free is.last⟩

/-- The parts that are not empty, with separators between them. -/
def joinParts (texts : List (List Char)) : List Char :=
  Text.joinWith separator (texts.filter (!·.isEmpty))

theorem joinParts_concat (texts : List (List Char)) (nonempty : texts.filter (!·.isEmpty) ≠ [])
    (last : List Char) :
    joinParts (texts ++ [last]) =
      joinParts texts ++ if last = [] then [] else separator ++ last := by
  unfold joinParts
  rw [List.filter_append]
  split
  next none => simp [none]
  next filled =>
    rw [List.filter_cons_of_pos (by simpa using filled), List.filter_nil,
      Text.joinWith_concat nonempty]

theorem trim_joinParts {texts : List (List Char)}
    (trimmed : ∀ text ∈ texts, Text.trim text = text) :
    Text.trim (joinParts texts) = joinParts texts := by
  apply Text.trim_joinWith
  intro text member
  have kept := List.mem_filter.mp member
  exact ⟨by simpa using kept.2, trimmed text kept.1⟩

/-- Blanks behind the last part stand at the end of the line. -/
theorem joinParts_concat_append {texts : List (List Char)}
    (nonempty : texts.filter (!·.isEmpty) ≠ []) {last blanks : List Char}
    (none : last = [] → blanks = []) :
    joinParts (texts ++ [last ++ blanks]) = joinParts (texts ++ [last]) ++ blanks := by
  by_cases absent : last = []
  · rw [absent, none absent, List.append_nil, List.append_nil]
  · rw [joinParts_concat texts nonempty, joinParts_concat texts nonempty, if_neg absent,
      if_neg (List.append_ne_nil_of_left_ne_nil absent blanks), List.append_assoc,
      List.append_assoc]

theorem parts_of_isParted {text : List Char} (parted : IsParted text) : parts text = [text] := by
  have free : ¬ separator <:+: text := fun held =>
    parted.apart (held.trans (List.prefix_append _ _).isInfix)
  rw [parts, Text.piecesBetween_of_free free, List.map_singleton, parted.trimmed]

/-- The parts in front of the last one are read back, whatever the last one is. -/
theorem parts_joinWith_concat {texts : List (List Char)}
    (parted : ∀ text ∈ texts, IsParted text) (last : List Char) :
    parts (Text.joinWith separator (texts ++ [last])) = texts ++ parts last := by
  have trimmed : texts.map Text.trim = texts :=
    (List.map_congr_left (g := id) fun text member => (parted text member).trimmed).trans
      (List.map_id texts)
  rw [parts, Text.piecesBetween_joinWith_concat separator_ne_nil
    (fun text member => (parted text member).apart), List.map_append, trimmed, parts]

theorem parts_joinParts {texts : List (List Char)} (parted : ∀ text ∈ texts, IsParted text)
    (nonempty : texts.filter (!·.isEmpty) ≠ []) (last : List Char) :
    parts (joinParts (texts ++ [last])) =
      texts.filter (!·.isEmpty) ++ if last = [] then [] else parts last := by
  have parted' : ∀ text ∈ texts.filter (!·.isEmpty), IsParted text := fun text member =>
    parted text (List.mem_filter.mp member).1
  rw [joinParts, List.filter_append]
  split
  next none =>
    -- The parts end with one of the others, which is read as the last one.
    rcases (List.eq_nil_or_concat _).resolve_left nonempty with ⟨front, final, shape⟩
    rw [List.concat_eq_append] at shape
    rw [shape] at parted' ⊢
    rw [none, List.filter_cons_of_neg (by simp), List.filter_nil, List.append_nil,
      parts_joinWith_concat (fun text member => parted' text (List.mem_append_left _ member)),
      parts_of_isParted (parted' final (by simp))]
  next filled =>
    rw [List.filter_cons_of_pos (by simpa using filled), List.filter_nil,
      parts_joinWith_concat parted']

/-- The parts of a text that begins with an at sign begin with one that does. -/
theorem parts_cons_at (text : List Char) :
    ∃ first others, parts ('@' :: text) = ('@' :: first) :: others := by
  rcases List.exists_cons_of_ne_nil (Text.piecesBetween_ne_nil separator ('@' :: text)) with
    ⟨first, others, shape⟩
  have whole := Text.joinWith_piecesBetween separator_ne_nil ('@' :: text)
  have begins : ∃ rest, first = '@' :: rest := by
    rw [shape] at whole
    cases first with
    | cons c rest =>
      have same := congrArg List.head? whole
      by_cases single : others = []
      · rw [single, Text.joinWith_singleton] at same
        exact ⟨rest, by rw [Option.some.inj same]⟩
      · rw [Text.joinWith_cons single] at same
        exact ⟨rest, by rw [Option.some.inj same]⟩
    | nil =>
      by_cases single : others = []
      · rw [single, Text.joinWith_singleton] at whole
        cases whole
      · rw [Text.joinWith_cons single] at whole
        exact absurd (List.cons.inj whole).1 (by decide)
  rcases begins with ⟨rest, rfl⟩
  refine ⟨Text.trimEnd rest, others.map Text.trim, ?_⟩
  rw [parts, shape, List.map_cons, Text.trim, Text.trimWhere_cons_of_not (by decide),
    Text.trimEndWhere_cons_of_not (by decide)]
  rfl

/-- The first part behind those that are in front of the tokens begins with an at sign. -/
theorem head?_eq_at_of_marked {last : List Char} (marked : last = [] ∨ ∃ rest, last = '@' :: rest)
    {part : List Char} (first : (if last = [] then [] else parts last).head? = some part) :
    part.head? = some '@' := by
  rcases marked with rfl | ⟨rest, rfl⟩
  · cases first
  · rcases parts_cons_at rest with ⟨text, others, begins⟩
    rw [if_neg (List.cons_ne_nil _ _), begins] at first
    exact Option.some.inj first ▸ rfl

theorem joinParts_ne_nil {texts : List (List Char)}
    (nonempty : texts.filter (!·.isEmpty) ≠ []) : joinParts texts ≠ [] := by
  rcases List.exists_cons_of_ne_nil nonempty with ⟨first, others, shape⟩
  have member : first ∈ texts.filter (!·.isEmpty) := shape ▸ List.mem_cons_self
  have filled : first ≠ [] := by
    simpa using (List.mem_filter.mp member).2
  rw [joinParts, shape]
  by_cases single : others = []
  · rwa [single, Text.joinWith_singleton]
  · rw [Text.joinWith_cons single]
    exact List.append_ne_nil_of_left_ne_nil filled _

/-- The line of a keyword and parts is read as what its parts say. -/
theorem ofLine?_joinParts {keyword : String} {texts : List (List Char)} {last blanks : List Char}
    (word : ∀ c ∈ keyword.toList, Text.isNameChar c = true)
    (parted : ∀ text ∈ texts, IsParted text) (nonempty : texts.filter (!·.isEmpty) ≠ [])
    (trimmed : Text.trim last = last) (blank : ∀ c ∈ blanks, Text.isBlank c = true)
    (none : last = [] → blanks = []) :
    ofLine? (line keyword (joinParts (texts ++ [last ++ blanks]))) =
      ofKeyword? keyword (line keyword (joinParts (texts ++ [last])))
        (joinParts (texts ++ [last])) := by
  have whole : line keyword (joinParts (texts ++ [last ++ blanks])) =
      line keyword (joinParts (texts ++ [last])) ++ blanks := by
    rw [joinParts_concat_append nonempty none]
    simp [line]
  have filled : joinParts (texts ++ [last]) ≠ [] := by
    apply joinParts_ne_nil
    rw [List.filter_append]
    exact List.append_ne_nil_of_left_ne_nil nonempty _
  have solid : Text.trim (joinParts (texts ++ [last])) = joinParts (texts ++ [last]) := by
    apply trim_joinParts
    intro text member
    rcases List.mem_append.mp member with front | final
    · exact (parted text front).trimmed
    · exact List.mem_singleton.mp final ▸ trimmed
  rw [whole, ofLine?_append blank, ofLine?_line word filled solid]

/-! ## Parameters -/

/-- The characters that begin or end a token. -/
def tokenMarks : List Char := ['@', '(', ')']

/-- The name of a parameter or its type. -/
structure IsSolid (text : String) : Prop where
  filled : text ≠ ""
  solid : ∀ c ∈ text.toList, Text.isBlank c = false
  plain : ∀ c ∈ text.toList, c ∉ tokenMarks

/-- A description that stands in front of tokens. -/
structure IsRemark (text : String) : Prop extends IsPhrase text where
  filled : text ≠ ""
  plain : ∀ c ∈ text.toList, c ∉ tokenMarks

end Directive

namespace ParameterTokens

open Directive

/-- Tokens that can be written. -/
structure IsWritten (tokens : ParameterTokens) : Prop where
  type : ∀ type, tokens.type = some type → IsSolid type
  sample : ∀ sample, tokens.sample = some sample →
    sample ≠ "" ∧ ∀ c ∈ sample.toList, c ∉ tokenMarks
  choices : ∀ choice ∈ tokens.choices, IsSolid choice ∧ ',' ∉ choice.toList

/-- The tokens as they are written. -/
def text (tokens : ParameterTokens) : List Char :=
  (if tokens.required then "@required ".toList else []) ++
    (tokens.type.elim [] fun type => "@type(".toList ++ type.toList ++ ") ".toList) ++
    (tokens.sample.elim [] fun sample => "@example(".toList ++ sample.toList ++ ") ".toList) ++
    (if tokens.choices = [] then []
      else "@enum(".toList ++ Text.joinWith [',', ' '] (tokens.choices.map String.toList) ++ [')'])

/-- The names of the tokens with values. -/
def names : List String := ["type", "example", "enum"]

theorem apartBehind_names : Token.ApartBehind '@' names :=
  ⟨by decide, by decide +kernel, by decide +kernel⟩

/-- The tokens with values. -/
def valued (tokens : ParameterTokens) : List Token.Written :=
  (tokens.type.toList.map fun type => ⟨"type", type.toList⟩) ++
    (tokens.sample.toList.map fun sample => ⟨"example", sample.toList⟩) ++
    if tokens.choices = [] then []
    else [⟨"enum", Text.joinWith [',', ' '] (tokens.choices.map String.toList)⟩]

/-- The tokens with a blank in front of each. -/
def spaced (tokens : ParameterTokens) : List Char :=
  (if tokens.required then " @required".toList else []) ++ Token.row [' '] '@' tokens.valued

/-- The blanks between the tokens stand in front of them as well as behind them. -/
theorem cons_text (tokens : ParameterTokens) :
    ' ' :: tokens.text = tokens.spaced ++ if tokens.choices = [] then [' '] else [] := by
  rcases tokens with ⟨_ | _, _ | type, _ | sample, _ | ⟨choice, choices⟩⟩ <;>
    simp [text, spaced, valued, Token.row, Token.opening]

theorem spaced_eq (tokens : ParameterTokens) :
    tokens.spaced = [] ∨ ∃ rest, tokens.spaced = ' ' :: '@' :: rest := by
  unfold spaced
  cases tokens.required with
  | true => exact Or.inr ⟨_, rfl⟩
  | false =>
    cases tokens.valued with
    | nil => exact Or.inl rfl
    | cons token later => exact Or.inr ⟨_, rfl⟩

theorem getLast?_spaced (tokens : ParameterTokens) {c : Char}
    (last : tokens.spaced.getLast? = some c) : Text.isBlank c = false := by
  rw [spaced] at last
  by_cases bare : tokens.valued = []
  · rw [bare, Token.row, List.append_nil] at last
    split at last
    next => exact Option.some.inj last ▸ by decide
    next => cases last
  · rw [List.getLast?_append, Token.getLast?_row _ _ bare] at last
    exact Option.some.inj last ▸ by decide

/-- What is written is nothing, or it begins with an at sign and may end in a blank. -/
theorem exists_bare (tokens : ParameterTokens) :
    ∃ bare blanks, tokens.text = bare ++ blanks ∧ (∀ c ∈ blanks, Text.isBlank c = true) ∧
      Text.trim bare = bare ∧
      (bare = [] ∧ blanks = [] ∧ tokens.spaced = [] ∨
        tokens.spaced = ' ' :: bare ∧ ∃ rest, bare = '@' :: rest) := by
  have shape := tokens.cons_text
  have blank : ∀ c ∈ if tokens.choices = [] then [' '] else [], Text.isBlank c = true := by
    split
    next => exact List.forall_iff_forall_mem.mp (by decide)
    next => exact nofun
  rcases tokens.spaced_eq with none | ⟨rest, some⟩
  · refine ⟨[], [], ?_, nofun, rfl, Or.inl ⟨rfl, rfl, none⟩⟩
    rw [none, List.nil_append] at shape
    split at shape
    next => exact (List.cons.inj shape).2
    next => cases shape
  · rw [some] at shape
    refine ⟨'@' :: rest, _, (List.cons.inj shape).2, blank, ?_, Or.inr ⟨some, rest, rfl⟩⟩
    apply Text.trim_eq_self
    · rintro c ⟨⟩
      decide
    · intro c last
      apply tokens.getLast?_spaced
      rw [some, List.getLast?_cons_cons]
      exact last

theorem among_valued {tokens : ParameterTokens} (written : tokens.IsWritten) :
    ∀ token ∈ tokens.valued, token.name ∈ names ∧ ∀ c ∈ token.value, c ∉ tokenMarks := by
  intro token member
  rw [valued, List.mem_append, List.mem_append] at member
  rcases member with (typed | sampled) | listed
  · rcases List.mem_map.mp typed with ⟨type, held, rfl⟩
    exact ⟨List.mem_cons_self, (written.type type (Option.mem_toList.mp held)).plain⟩
  · rcases List.mem_map.mp sampled with ⟨sample, held, rfl⟩
    exact ⟨by simp [names], (written.sample sample (Option.mem_toList.mp held)).2⟩
  · split at listed
    next => cases listed
    next =>
      rcases List.mem_singleton.mp listed with rfl
      refine ⟨by simp [names], fun c inside => ?_⟩
      rcases Text.mem_joinWith inside with mark | ⟨_, inner, here⟩
      · have plain : ∀ c ∈ [',', ' '], c ∉ tokenMarks := List.forall_iff_forall_mem.mp (by decide)
        exact plain c mark
      · rcases List.mem_map.mp inner with ⟨choice, chosen, rfl⟩
        exact (written.choices choice chosen).1.plain c here

section Reading

variable {tokens : ParameterTokens} {head : List Char}

/-- The text in front of the tokens with values holds no parenthesis. -/
theorem parenthesis_not_mem (free : '(' ∉ head) (tokens : ParameterTokens) :
    '(' ∉ head ++ if tokens.required then " @required".toList else [] := by
  split <;> simp [free]

theorem rawValue?_spaced (written : tokens.IsWritten) (free : '(' ∉ head) {name : String}
    (known : name ∈ names) :
    Token.rawValue? (Token.opening name) none (head ++ tokens.spaced) =
      (tokens.valued.find? (·.name == name)).map (·.value) := by
  have among : ∀ token ∈ tokens.valued, token.Among names := fun token member =>
    have here := among_valued written token member
    ⟨here.1, fun inside => here.2 _ inside (by decide), fun inside => here.2 _ inside (by decide)⟩
  rw [spaced, ← List.append_assoc]
  exact Token.rawValue?_row apartBehind_names (parenthesis_not_mem free tokens) (by decide) known
    among

theorem find?_valued (tokens : ParameterTokens) :
    (tokens.valued.find? (·.name == "type")).map (·.value) = tokens.type.map String.toList ∧
    (tokens.valued.find? (·.name == "example")).map (·.value) = tokens.sample.map String.toList ∧
    (tokens.valued.find? (·.name == "enum")).map (·.value) =
      if tokens.choices = [] then none
      else some (Text.joinWith [',', ' '] (tokens.choices.map String.toList)) := by
  rcases tokens with ⟨required, _ | type, _ | sample, _ | ⟨choice, choices⟩⟩ <;> simp [valued]

theorem value_type (written : tokens.IsWritten) (free : '(' ∉ head) :
    Token.value "type" (head ++ tokens.spaced) = (tokens.type.map String.toList).getD [] := by
  rw [Token.value, rawValue?_spaced written free (by decide), tokens.find?_valued.1]
  cases held : tokens.type with
  | none => rfl
  | some type =>
    have solid : type.toList.filter (!Text.isBlank ·) = type.toList := by
      rw [List.filter_eq_self]
      intro c inside
      rw [(written.type type held).solid c inside, Bool.not_false]
    exact solid

theorem value_example (written : tokens.IsWritten) (free : '(' ∉ head) :
    Token.value "example" (head ++ tokens.spaced) = (tokens.sample.map String.toList).getD [] := by
  rw [Token.value, rawValue?_spaced written free (by decide), tokens.find?_valued.2.1]
  cases tokens.sample with
  | none => rfl
  | some sample => rfl

theorem listValue_enum (written : tokens.IsWritten) (free : '(' ∉ head) :
    Token.listValue "enum" (head ++ tokens.spaced) = tokens.choices := by
  rw [Token.listValue, Token.value, rawValue?_spaced written free (by decide),
    tokens.find?_valued.2.2]
  by_cases none : tokens.choices = []
  · rw [none]
    rfl
  · rw [if_neg none]
    exact Token.entries_joinWith (fun choice member => (written.choices choice member).1.filled)
      (fun choice member => (written.choices choice member).1.solid)
      fun choice member => (written.choices choice member).2

/-- Only the flag itself is read as the flag. -/
theorem contains_required_spaced (written : tokens.IsWritten) (free : '@' ∉ head) :
    Text.contains "@required".toList (head ++ tokens.spaced) = tokens.required := by
  cases flag : tokens.required with
  | true =>
    apply Text.contains_iff.mpr
    refine ⟨head ++ [' '], Token.row [' '] '@' tokens.valued, ?_⟩
    simp [spaced, flag]
  | false =>
    apply Bool.eq_false_iff.mpr
    intro held
    have none : tokens.spaced = Token.row [' '] '@' tokens.valued := by
      simp [spaced, flag]
    have noMark : ∀ name ∈ names, '@' ∉ name.toList ∧ ¬ "required".toList <+: name.toList := by
      decide +kernel
    rw [Text.contains_iff, none] at held
    refine Token.not_marked_infix_row (by decide) free (by decide) (by decide) ?_ held
    intro token member
    have here := among_valued written token member
    have named := noMark token.name here.1
    exact ⟨named.1, fun inside => here.2 _ inside (by decide), named.2⟩

end Reading

end ParameterTokens

namespace Directive

/-- A text that is not empty is read back from what is written for it. -/
theorem nonEmpty?_getD {text : Option String}
    (filled : ∀ written, text = some written → written ≠ "") :
    nonEmpty? ((text.map String.toList).getD []) = text := by
  cases text with
  | none => rfl
  | some written => simp [nonEmpty?, filled written rfl]

/-- The tokens are read back from every line that ends in them. -/
theorem readTokens_spaced {tokens : ParameterTokens} (written : tokens.IsWritten) {head : List Char}
    (plain : ∀ c ∈ head, c ∉ tokenMarks) :
    ({ required := Text.contains "@required".toList (head ++ tokens.spaced)
       type := nonEmpty? (Token.value "type" (head ++ tokens.spaced))
       sample := nonEmpty? (Token.value "example" (head ++ tokens.spaced))
       choices := Token.listValue "enum" (head ++ tokens.spaced) } : ParameterTokens) = tokens := by
  have free : '(' ∉ head := fun inside => plain _ inside (by decide)
  have type := nonEmpty?_getD fun type held => (written.type type held).filled
  have sample := nonEmpty?_getD fun sample held => (written.sample sample held).1
  rw [tokens.contains_required_spaced written fun inside => plain _ inside (by decide),
    tokens.value_type written free, type, tokens.value_example written free, sample,
    tokens.listValue_enum written free]

/-- A parameter that can be declared on a line. -/
structure WrittenParameter where
  location : ParameterLocation
  name : String
  description : Option String
  tokens : ParameterTokens
  named : IsSolid name
  described : ∀ remark, description = some remark → IsRemark remark
  written : tokens.IsWritten

namespace WrittenParameter

/-- The keyword of a location. -/
def keyword : ParameterLocation → String
  | .path => "paramPath"
  | .query => "paramQuery"
  | .header => "paramHeader"

/-- The parts in front of the tokens. -/
def front (parameter : WrittenParameter) : List (List Char) :=
  [parameter.name.toList, (parameter.description.map String.toList).getD []]

/-- The line that declares a parameter. -/
def text (parameter : WrittenParameter) : List Char :=
  line (keyword parameter.location) (joinParts (parameter.front ++ [parameter.tokens.text]))

theorem name_ne_nil (parameter : WrittenParameter) : parameter.name.toList ≠ [] := by
  simpa using parameter.named.filled

theorem isParted_front (parameter : WrittenParameter) :
    ∀ text ∈ parameter.front, IsParted text := by
  intro text member
  rw [front, List.mem_cons, List.mem_singleton] at member
  rcases member with rfl | rfl
  · exact .of_solid parameter.named.solid
  · cases held : parameter.description with
    | none => exact .of_solid nofun
    | some remark => exact (parameter.described remark held).isParted

theorem plain_front (parameter : WrittenParameter) :
    ∀ text ∈ parameter.front, ∀ c ∈ text, c ∉ tokenMarks := by
  intro text member
  rw [front, List.mem_cons, List.mem_singleton] at member
  rcases member with rfl | rfl
  · exact parameter.named.plain
  · cases held : parameter.description with
    | none => exact nofun
    | some remark => exact (parameter.described remark held).plain

/-- The parts in front of the tokens that are not empty. -/
theorem filter_front (parameter : WrittenParameter) :
    parameter.front.filter (!·.isEmpty) =
      parameter.name.toList :: (parameter.description.map String.toList).toList := by
  rw [front, List.filter_cons_of_pos (by simpa using parameter.named.filled)]
  cases held : parameter.description with
  | none => rfl
  | some remark =>
    have filled : remark.toList ≠ [] := by
      simpa using (parameter.described remark held).filled
    rw [Option.map_some, Option.getD_some, List.filter_cons_of_pos (by simpa using filled)]
    rfl

theorem filter_front_ne_nil (parameter : WrittenParameter) :
    parameter.front.filter (!·.isEmpty) ≠ [] := by
  rw [parameter.filter_front]
  exact List.cons_ne_nil _ _

/-- What stands in front of the tokens holds no mark of a token. -/
theorem plain_head (parameter : WrittenParameter) {gap : List Char}
    (plain : ∀ c ∈ gap, c ∉ tokenMarks) :
    ∀ c ∈ joinParts parameter.front ++ gap, c ∉ tokenMarks := by
  have noMark : ∀ c ∈ separator, c ∉ tokenMarks := List.forall_iff_forall_mem.mp (by decide)
  intro c member
  rcases List.mem_append.mp member with inside | between
  · rcases Text.mem_joinWith inside with mark | ⟨text, among, here⟩
    · exact noMark c mark
    · exact parameter.plain_front text (List.mem_filter.mp among).1 c here
  · exact plain c between

/-- The line ends in the tokens, each with a blank in front of it. -/
theorem exists_head (parameter : WrittenParameter) {bare : List Char}
    (shape : bare = [] ∧ parameter.tokens.spaced = [] ∨
      parameter.tokens.spaced = ' ' :: bare ∧ ∃ rest, bare = '@' :: rest) :
    ∃ head, (∀ c ∈ head, c ∉ tokenMarks) ∧
      joinParts (parameter.front ++ [bare]) = head ++ parameter.tokens.spaced := by
  rcases shape with ⟨rfl, none⟩ | ⟨spaced, rest, rfl⟩
  · refine ⟨joinParts parameter.front ++ [], parameter.plain_head nofun, ?_⟩
    rw [joinParts_concat _ parameter.filter_front_ne_nil, if_pos rfl, none, List.append_nil,
      List.append_nil]
  · refine ⟨joinParts parameter.front ++ [' ', '-'],
      parameter.plain_head (List.forall_iff_forall_mem.mp (by decide)), ?_⟩
    rw [joinParts_concat _ parameter.filter_front_ne_nil, if_neg (List.cons_ne_nil _ _), spaced,
      List.append_assoc]
    rfl

/-- The part behind the name is the description, unless it begins with an at sign. -/
theorem description_eq (parameter : WrittenParameter) {marked : List (List Char)}
    (marks : ∀ part, marked.head? = some part → part.head? = some '@') :
    (((parameter.description.map String.toList).toList ++ marked).head?.filter fun part =>
      !part.isEmpty && !Text.startsWith ['@'] part).map String.ofList =
        parameter.description := by
  cases held : parameter.description with
  | none =>
    cases marked with
    | nil => rfl
    | cons part others =>
      have begins := Text.startsWith_singleton_iff.mpr (marks part rfl)
      simp [begins]
  | some remark =>
    have is := parameter.described remark held
    have begins : Text.startsWith ['@'] remark.toList = false := by
      rw [Bool.eq_false_iff, ne_eq, Text.startsWith_singleton_iff]
      intro first
      exact is.plain '@' (List.mem_of_mem_head? first) (by decide)
    simp [begins, is.filled]

/-- A line without blanks at its end is read as the parameter. -/
theorem readParameter?_joinParts (parameter : WrittenParameter) {bare : List Char}
    (shape : bare = [] ∧ parameter.tokens.spaced = [] ∨
      parameter.tokens.spaced = ' ' :: bare ∧ ∃ rest, bare = '@' :: rest) :
    readParameter? parameter.location (joinParts (parameter.front ++ [bare])) =
      some (.parameter parameter.location parameter.name parameter.description
        parameter.tokens) := by
  have cut := parts_joinParts parameter.isParted_front parameter.filter_front_ne_nil bare
  rw [parameter.filter_front, List.cons_append] at cut
  rcases parameter.exists_head shape with ⟨head, plain, line⟩
  have tokens := readTokens_spaced parameter.written plain
  have named : ¬ Text.startsWith ['@'] parameter.name.toList = true := by
    rw [Text.startsWith_singleton_iff]
    intro first
    exact parameter.named.plain '@' (List.mem_of_mem_head? first) (by decide)
  rw [readParameter?, cut]
  simp only [List.head?_cons, Option.map_some, Option.bind_some,
    Text.words_of_solid parameter.name_ne_nil parameter.named.solid, Option.bind_eq_bind]
  rw [if_neg named, line, tokens, String.ofList_toList, List.getElem?_cons_succ,
    ← List.head?_eq_getElem?]
  have marked := shape.imp (fun is => is.1) fun is => is.2
  rw [parameter.description_eq fun part => head?_eq_at_of_marked marked]

/-- The line that was written for a parameter declares it. -/
theorem ofLine?_text (parameter : WrittenParameter) :
    ofLine? parameter.text = some (.parameter parameter.location parameter.name
      parameter.description parameter.tokens) := by
  rcases parameter.tokens.exists_bare with ⟨bare, blanks, written, blank, trimmed, shape⟩
  have none : bare = [] → blanks = [] := by
    intro empty
    rcases shape with ⟨-, none, -⟩ | ⟨-, rest, rfl⟩
    · exact none
    · cases empty
  have word : ∀ c ∈ (keyword parameter.location).toList, Text.isNameChar c = true := by
    cases parameter.location <;> exact List.all_eq_true.mp (by decide)
  rw [text, written,
    ofLine?_joinParts word parameter.isParted_front parameter.filter_front_ne_nil trimmed blank
      none,
    ← parameter.readParameter?_joinParts (shape.imp (fun is => ⟨is.1, is.2.2⟩) id)]
  cases parameter.location <;> rfl

end WrittenParameter

/-! ## Headers -/

/-- A header that can be declared on a line. -/
structure WrittenHeader where
  status : String
  name : String
  description : String
  tokens : String
  filled : status ≠ ""
  solid : ∀ c ∈ status.toList, Text.isBlank c = false
  named : name ≠ "" ∧ IsPhrase name
  single : Text.startsWith "@use(".toList name.toList = false
  described : IsPhrase description
  apart : description.toList.head? ≠ some '@'
  marked : tokens = "" ∨ tokens.toList.head? = some '@'

namespace WrittenHeader

/-- The parts in front of the tokens. -/
def front (header : WrittenHeader) : List (List Char) :=
  [header.status.toList, header.name.toList, header.description.toList]

/-- The line that declares a header. -/
def text (header : WrittenHeader) : List Char :=
  line "responseHeader" (joinParts (header.front ++ [header.tokens.toList]))

/-- The tokens with single blanks around the hyphens between them. -/
def readTokens (header : WrittenHeader) : String :=
  String.ofList (Text.joinWith separator (parts (Text.trim header.tokens.toList)))

theorem isParted_front (header : WrittenHeader) : ∀ text ∈ header.front, IsParted text := by
  intro text member
  simp only [front, List.mem_cons, List.not_mem_nil, or_false] at member
  rcases member with rfl | rfl | rfl
  · exact .of_solid header.solid
  · exact header.named.2.isParted
  · exact header.described.isParted

theorem filter_front (header : WrittenHeader) :
    header.front.filter (!·.isEmpty) = header.status.toList :: header.name.toList ::
      [header.description.toList].filter (!·.isEmpty) := by
  rw [front, List.filter_cons_of_pos (by simpa using header.filled),
    List.filter_cons_of_pos (by simpa using header.named.1)]

/-- The part behind the name is the description, unless it begins with an at sign. -/
theorem readHeader_append {name description : List Char} {tokens : List (List Char)}
    (apart : description.head? ≠ some '@')
    (marks : ∀ part, tokens.head? = some part → part.head? = some '@') :
    readHeader name ([description].filter (!·.isEmpty) ++ tokens) =
      .single (String.ofList name) (String.ofList description)
        (String.ofList (Text.joinWith separator tokens)) := by
  by_cases none : description = []
  · cases tokens with
    | nil => simp [readHeader, none]
    | cons part others =>
      have begins := Text.startsWith_singleton_iff.mpr (marks part rfl)
      simp [readHeader, none, begins]
  · have begins : Text.startsWith ['@'] description = false := by
      rw [Bool.eq_false_iff, ne_eq, Text.startsWith_singleton_iff]
      exact apart
    simp [readHeader, none, begins]

/-- What is written of the tokens is nothing, or it begins with an at sign and may end in
blanks. -/
theorem exists_bare (header : WrittenHeader) :
    ∃ bare blanks, header.tokens.toList = bare ++ blanks ∧
      (∀ c ∈ blanks, Text.isBlank c = true) ∧ Text.trim header.tokens.toList = bare ∧
      (bare = [] ∧ blanks = [] ∨ ∃ rest, bare = '@' :: rest) := by
  rcases header.marked with none | first
  · exact ⟨[], [], congrArg String.toList none, nofun, congrArg (Text.trim ·.toList) none,
      Or.inl ⟨rfl, rfl⟩⟩
  · rcases List.head?_eq_some_iff.mp first with ⟨rest, shape⟩
    rcases Text.exists_trimEndWhere Text.isBlank rest with ⟨blanks, whole, blank⟩
    refine ⟨'@' :: Text.trimEnd rest, blanks, ?_, blank, ?_, Or.inr ⟨_, rfl⟩⟩
    · rw [shape, List.cons_append, Text.trimEnd, ← whole]
    · rw [shape, Text.trim, Text.trimWhere_cons_of_not (by decide),
        Text.trimEndWhere_cons_of_not (by decide), Text.trimEnd]

/-- The line that was written for a header declares it. -/
theorem ofLine?_text (header : WrittenHeader) :
    ofLine? header.text = some (.responseHeader header.status
      (.single header.name header.description header.readTokens)) := by
  have nonempty : header.front.filter (!·.isEmpty) ≠ [] := by
    rw [header.filter_front]
    exact List.cons_ne_nil _ _
  have word := List.all_eq_true.mp (by decide : "responseHeader".toList.all Text.isNameChar = true)
  rcases header.exists_bare with ⟨bare, blanks, written, blank, trimmed, shape⟩
  have none : bare = [] → blanks = [] := by
    intro empty
    rcases shape with ⟨-, none⟩ | ⟨rest, rfl⟩
    · exact none
    · cases empty
  have solid : Text.trim bare = bare := trimmed ▸ Text.trimWhere_trimWhere Text.isBlank _
  have marks : ∀ part, (if bare = [] then [] else parts bare).head? = some part →
      part.head? = some '@' := fun part =>
    head?_eq_at_of_marked (shape.imp_left fun is => is.1)
  have joined : Text.joinWith separator (if bare = [] then [] else parts bare) =
      Text.joinWith separator (parts bare) := by
    split
    next empty =>
      rw [empty]
      decide +kernel
    next => rfl
  have status : ¬ (header.status.toList.isEmpty || header.status.toList.contains ' ' ||
      header.name.toList.isEmpty) = true := by
    have space : Text.isBlank ' ' = true := by decide
    have free : ' ' ∉ header.status.toList := fun inside =>
      absurd (header.solid ' ' inside) (by simp [space])
    simp [header.filled, header.named.1, free]
  have cut := parts_joinParts header.isParted_front nonempty bare
  rw [header.filter_front, List.cons_append, List.cons_append] at cut
  rw [text, written, ofLine?_joinParts word header.isParted_front nonempty solid blank none]
  change readResponseHeader? _ = _
  rw [readResponseHeader?, cut]
  dsimp only
  rw [if_neg status, header.single, if_neg Bool.false_ne_true,
    readHeader_append header.apart marks, joined]
  simp [readTokens, trimmed]

/-- Tokens with single blanks around the hyphens between them are read as they are written. -/
theorem readTokens_eq (header : WrittenHeader)
    (trimmed : Text.trim header.tokens.toList = header.tokens.toList)
    (pieces : ∀ piece ∈ Text.piecesBetween separator header.tokens.toList,
      Text.trim piece = piece) : header.readTokens = header.tokens := by
  have kept : parts header.tokens.toList = Text.piecesBetween separator header.tokens.toList :=
    (List.map_congr_left (g := id) pieces).trans (List.map_id _)
  rw [readTokens, trimmed, kept, Text.joinWith_piecesBetween separator_ne_nil,
    String.ofList_toList]

end WrittenHeader

/-- Parameters and headers are read back from their lines, in every location and whatever parts
are absent.  Of the tokens of a header only the blanks around the hyphens between them may
change. -/
theorem ofLine?_written_parameters_and_headers (parameter : WrittenParameter)
    (header : WrittenHeader) :
    ofLine? parameter.text = some (.parameter parameter.location parameter.name
      parameter.description parameter.tokens) ∧
    ofLine? header.text = some (.responseHeader header.status
      (.single header.name header.description header.readTokens)) ∧
    (Text.trim header.tokens.toList = header.tokens.toList →
      (∀ piece ∈ Text.piecesBetween separator header.tokens.toList, Text.trim piece = piece) →
        header.readTokens = header.tokens) :=
  ⟨parameter.ofLine?_text, header.ofLine?_text, header.readTokens_eq⟩

/-- A parameter whose example holds a separator. -/
def sortParameter : WrittenParameter where
  location := .query
  name := "sort"
  description := "Order of the users"
  tokens := ⟨true, "string", "name - age", ["name", "age"]⟩
  named := ⟨by decide, List.forall_iff_forall_mem.mp (by decide),
    List.forall_iff_forall_mem.mp (by decide)⟩
  described := by
    rintro remark ⟨⟩
    exact ⟨⟨by decide +kernel, by decide +kernel, by decide⟩, by decide,
      List.forall_iff_forall_mem.mp (by decide)⟩
  written := by
    refine ⟨?_, ?_, ?_⟩
    · rintro type ⟨⟩
      exact ⟨by decide, List.forall_iff_forall_mem.mp (by decide),
        List.forall_iff_forall_mem.mp (by decide)⟩
    · rintro sample ⟨⟩
      exact ⟨by decide, List.forall_iff_forall_mem.mp (by decide)⟩
    · intro choice member
      simp only [List.mem_cons, List.not_mem_nil, or_false] at member
      rcases member with rfl | rfl <;>
        exact ⟨⟨by decide, List.forall_iff_forall_mem.mp (by decide),
          List.forall_iff_forall_mem.mp (by decide)⟩, by decide⟩

/-- A header without a description. -/
def limitHeader : WrittenHeader where
  status := "200"
  name := "X-Limit"
  description := ""
  tokens := "@example(1 - 2)"
  filled := by decide
  solid := List.forall_iff_forall_mem.mp (by decide)
  named := ⟨by decide, by decide +kernel, by decide +kernel, by decide⟩
  single := by decide
  described := ⟨by decide +kernel, by decide +kernel, by decide⟩
  apart := by decide
  marked := Or.inr (by decide)

theorem ofLine?_sort_parameter_and_limit_header :
    ofLine? ("@paramQuery sort - Order of the users - " ++
        "@required @type(string) @example(name - age) @enum(name, age)").toList =
      some (.parameter .query "sort" "Order of the users"
        ⟨true, "string", "name - age", ["name", "age"]⟩) ∧
    ofLine? "@responseHeader 200 - X-Limit - @example(1 - 2)".toList =
      some (.responseHeader "200" (.single "X-Limit" "" "@example(1 - 2)")) := by
  have read := ofLine?_written_parameters_and_headers sortParameter limitHeader
  have parameterLine : sortParameter.text = ("@paramQuery sort - Order of the users - " ++
      "@required @type(string) @example(name - age) @enum(name, age)").toList := by
    decide +kernel
  have headerLine : limitHeader.text =
      "@responseHeader 200 - X-Limit - @example(1 - 2)".toList := by
    decide +kernel
  have cut : Text.piecesBetween separator limitHeader.tokens.toList =
      ["@example(1".toList, "2)".toList] := by
    decide +kernel
  have tokens : limitHeader.readTokens = "@example(1 - 2)" := by
    apply read.2.2 (by decide +kernel)
    intro piece member
    rw [cut, List.mem_cons, List.mem_singleton] at member
    rcases member with rfl | rfl <;> decide +kernel
  rw [← parameterLine, ← headerLine, ← tokens]
  exact ⟨read.1, read.2.1⟩

end Directive
end Routebook
