import Routebook.Notes.Directive
import Routebook.Proofs.Token

namespace Routebook
namespace Directive

/-!
# Written bodies

The line of a body ends in its payload: a reference in angle brackets with the tokens of its
filter, or an example in braces.  What stands in front of the payload is the description.  The
reader takes each of them from the whole line, by the first or the last bracket of a kind, so
each is shown to be found although the others are there.  The text in front of a payload holds no
bracket, whatever it is; therefore one law of `splitPayload` serves every line with a payload.
-/

/-! ## Descriptions -/

theorem separator_ne_nil : separator ≠ [] :=
  List.cons_ne_nil _ _

/-- A part of a description. -/
structure IsPart (part : List Char) : Prop where
  filled : part ≠ []
  trimmed : Text.trim part = part
  head : part.head? ≠ some '-'
  last : part.getLast? ≠ some '-'
  plain : ∀ c ∈ part, c ∉ Token.brackets

/-- A description is empty or parted by hyphens. -/
def IsDescription (description : List Char) : Prop :=
  description = [] ∨ ∀ part ∈ Text.piecesBetween separator description, IsPart part

/-- A description as it is written in front of a payload. -/
def remark (description : List Char) : List Char :=
  if description = [] then [] else description ++ separator

/-- What stands between a status and a payload. -/
def middle (description : List Char) : List Char :=
  '-' :: ' ' :: remark description

/-- No separator begins in a text and ends behind it, unless a hyphen ends the text. -/
theorem not_infix_append_separator {text : List Char} (free : ¬ separator <:+: text)
    (last : text.getLast? ≠ some '-') : ¬ separator <:+: text ++ separator.dropLast := by
  have shape : text ++ separator.dropLast = (text ++ [' ']) ++ ['-'] := by
    simp [separator]
  have whole : separator = [' ', '-'] ++ [' '] := rfl
  rw [shape, whole, Text.infix_append_iff_of_concat (by decide), Text.infix_concat_iff, ← whole]
  rintro (⟨before, rfl⟩ | held)
  · exact last (by simp)
  · exact free held

theorem IsPart.cleaned {part : List Char} (is : IsPart part) :
    Text.trim (Text.trimWhere (· == '-') (Text.trim part)) = part := by
  have kept : Text.trimWhere (· == '-') part = part := by
    apply Text.trimWhere_eq_self
    · intro c first
      exact beq_eq_false_iff_ne.mpr fun same => is.head (same ▸ first)
    · intro c final
      exact beq_eq_false_iff_ne.mpr fun same => is.last (same ▸ final)
  rw [is.trimmed, kept, is.trimmed]

/-- The hyphen behind a status is no part of the description. -/
theorem IsPart.cleaned_behind_hyphen {part : List Char} (is : IsPart part) :
    Text.trim (Text.trimWhere (· == '-') (Text.trim ('-' :: ' ' :: part))) = part := by
  have lastOf : ∀ front : List Char, (front ++ part).getLast? = part.getLast? := fun front =>
    List.getLast?_append_of_ne_nil front is.filled
  have solid := (Text.not_of_trimWhere_eq_self is.trimmed).2
  have line : Text.trim ('-' :: ' ' :: part) = '-' :: ' ' :: part := by
    apply Text.trim_eq_self
    · rintro c ⟨⟩
      decide
    · intro c final
      exact solid c ((lastOf ['-', ' ']).symm.trans final)
  have kept : Text.trimWhere (· == '-') (' ' :: part) = ' ' :: part := by
    apply Text.trimWhere_eq_self
    · rintro c ⟨⟩
      decide
    · intro c final
      apply beq_eq_false_iff_ne.mpr
      intro same
      exact is.last ((lastOf [' ']).symm.trans (same ▸ final))
  have blank : Text.trim (' ' :: part) = Text.trim part := Text.trimWhere_cons (by decide) part
  rw [line, Text.trimWhere_cons (by decide), kept, blank, is.trimmed]

/-- The parts of a description are the pieces of what is written in front of a payload, which
begins with a hyphen and ends behind a separator. -/
theorem piecesBetween_middle {first : List Char} {others : List (List Char)}
    (parts : ∀ part ∈ first :: others, IsPart part)
    (free : ∀ part ∈ first :: others, ¬ separator <:+: part) :
    Text.piecesBetween separator
        ('-' :: ' ' :: (Text.joinWith separator (first :: others) ++ separator)) =
      ('-' :: ' ' :: first) :: others ++ [[]] := by
  have line : '-' :: ' ' :: (Text.joinWith separator (first :: others) ++ separator) =
      Text.joinWith separator (('-' :: ' ' :: first) :: others ++ [[]]) := by
    have front := Text.joinWith_append_cons separator ['-', ' '] first others
    rw [Text.joinWith_concat (List.cons_ne_nil _ _), List.append_nil]
    exact congrArg (· ++ separator) front.symm
  rw [line]
  refine Text.piecesBetween_joinWith separator_ne_nil ?_ (by decide)
  intro text member
  rcases List.mem_cons.mp member with rfl | later
  · have is := parts first List.mem_cons_self
    apply not_infix_append_separator
    · rw [separator, List.infix_cons_iff, List.infix_cons_iff]
      simp only [List.cons_prefix_cons]
      rintro (⟨other, -⟩ | ⟨-, rest, begins⟩ | held)
      · exact absurd other (by decide)
      · exact is.head (begins ▸ rfl)
      · exact free first List.mem_cons_self held
    · have lastOf : ('-' :: ' ' :: first).getLast? = first.getLast? :=
        List.getLast?_append_of_ne_nil ['-', ' '] is.filled
      rw [lastOf]
      exact is.last
  · have among : text ∈ first :: others := List.mem_cons_of_mem first later
    exact not_infix_append_separator (free text among) (parts text among).last

/-- A description is read back from what is written in front of a payload. -/
theorem cleanDescription_middle {description : List Char} (described : IsDescription description) :
    cleanDescription (middle description) = description := by
  by_cases empty : description = []
  · rw [empty]
    decide +kernel
  · have parts := described.resolve_left empty
    have whole := Text.joinWith_piecesBetween separator_ne_nil description
    have free : ∀ part ∈ Text.piecesBetween separator description, ¬ separator <:+: part :=
      fun part => Text.not_infix_of_mem_piecesBetween separator_ne_nil
    rcases List.exists_cons_of_ne_nil (Text.piecesBetween_ne_nil separator description) with
      ⟨first, others, shape⟩
    rw [shape] at parts whole free
    have cut := piecesBetween_middle parts free
    rw [whole] at cut
    have cleaned : others.map
        (fun piece => Text.trim (Text.trimWhere (· == '-') (Text.trim piece))) = others := by
      refine (List.map_congr_left (g := id) fun part later => ?_).trans (List.map_id others)
      exact (parts part (List.mem_cons_of_mem first later)).cleaned
    have none : Text.trim (Text.trimWhere (· == '-') (Text.trim [])) = [] := rfl
    have filled : (first :: others).filter (!·.isEmpty) = first :: others := by
      rw [List.filter_eq_self]
      intro part member
      simpa using (parts part member).filled
    rw [cleanDescription, middle, remark, if_neg empty, cut, List.map_append, List.map_cons,
      (parts first List.mem_cons_self).cleaned_behind_hyphen, cleaned, List.map_singleton, none,
      List.filter_append, filled]
    exact (congrArg (Text.joinWith separator) (List.append_nil _)).trans whole

/-- What stands in front of a payload holds no bracket. -/
theorem plain_middle {description : List Char} (described : IsDescription description) :
    ∀ c ∈ middle description, c ∉ Token.brackets := by
  have marks : ∀ c ∈ separator, c ∉ Token.brackets := List.forall_iff_forall_mem.mp (by decide)
  have inner : ∀ c ∈ description, c ∉ Token.brackets := by
    intro c member
    rcases described with rfl | parts
    · cases member
    · rw [← Text.joinWith_piecesBetween separator_ne_nil description] at member
      rcases Text.mem_joinWith member with mark | ⟨part, among, here⟩
      · exact marks c mark
      · exact (parts part among).plain c here
  have ends : ∀ c ∈ remark description, c ∉ Token.brackets := by
    intro c member
    rw [remark] at member
    split at member
    · cases member
    · exact (List.mem_append.mp member).elim (inner c) (marks c)
  intro c member
  rcases List.mem_cons.mp member with rfl | member
  · decide
  · rcases List.mem_cons.mp member with rfl | member
    · decide
    · exact ends c member

/-! ## Payloads -/

/-- A text without brackets does not decide what the payload behind it is. -/
theorem find?_append_of_plain {head : List Char} (plain : ∀ c ∈ head, c ∉ Token.brackets)
    (payload : List Char) :
    (head ++ payload).find? (fun c => c == '{' || c == '<') =
      payload.find? (fun c => c == '{' || c == '<') := by
  have none : head.find? (fun c => c == '{' || c == '<') = none := by
    rw [List.find?_eq_none]
    intro c member opens
    rcases (Bool.or_eq_true _ _).mp opens with same | same
    · exact plain c member (beq_iff_eq.mp same ▸ by decide)
    · exact plain c member (beq_iff_eq.mp same ▸ by decide)
  rw [List.find?_append, none, Option.none_or]

/-- A reference and the lists of its filter. -/
structure WrittenReference where
  name : String
  included : List String
  excluded : List String
  selected : List String
  filled : name ≠ ""
  trimmed : Text.trim name.toList = name.toList
  plain : ∀ c ∈ name.toList, c ∉ Token.brackets
  written : ∀ entry ∈ included ++ excluded ++ selected, Token.IsEntry entry

namespace WrittenReference

/-- The lists and the names of their tokens. -/
def lists (reference : WrittenReference) : List (String × List String) :=
  [("with", reference.included), ("exclude", reference.excluded), ("only", reference.selected)]

/-- The name as it is written. -/
def angled (reference : WrittenReference) : List Char :=
  '<' :: (reference.name.toList ++ ['>'])

/-- The reference as it is written. -/
def text (reference : WrittenReference) : List Char :=
  reference.angled ++ Token.write (Token.ofLists reference.lists)

theorem apart_filterTokens : Token.Apart filterTokens :=
  ⟨by decide +kernel, by decide +kernel⟩

theorem known (reference : WrittenReference) : ∀ list ∈ reference.lists, list.1 ∈ filterTokens := by
  simp [lists, filterTokens]

theorem isEntry (reference : WrittenReference) :
    ∀ list ∈ reference.lists, ∀ entry ∈ list.2, Token.IsEntry entry := by
  intro list listed entry member
  apply reference.written
  simp only [lists, List.mem_cons, List.not_mem_nil, or_false] at listed
  rcases listed with rfl | rfl | rfl <;> simp [member]

/-- The filter of a line that ends in the tokens of the lists. -/
theorem ofLine_write (reference : WrittenReference) {head : List Char} (free : '(' ∉ head) :
    Filter.ofLine (head ++ Token.write (Token.ofLists reference.lists)) =
      ⟨reference.included, reference.excluded, reference.selected, .empty⟩ := by
  have list : ∀ name entries, (name, entries) ∈ reference.lists → name ≠ Token.verbatimName →
      Token.listValue name (head ++ Token.write (Token.ofLists reference.lists)) = entries :=
    fun name entries member kept => Token.listValue_write apart_filterTokens free reference.known
      reference.isEntry (by simp [lists]) member kept
  have appended : Token.value "append"
      (head ++ Token.write (Token.ofLists reference.lists)) = [] :=
    Token.value_write_of_absent apart_filterTokens free (by decide) reference.known
      reference.isEntry (by simp [lists])
  rw [Filter.ofLine, list "with" reference.included (by simp [lists]) (by decide),
    list "exclude" reference.excluded (by simp [lists]) (by decide),
    list "only" reference.selected (by simp [lists]) (by decide), appended]
  rfl

theorem not_mem_name (reference : WrittenReference) {c : Char} (bracket : c ∈ Token.brackets) :
    c ∉ reference.name.toList := fun member => reference.plain c member bracket

/-- The tokens hold no closing angle bracket, so the last one closes the reference. -/
theorem angle_not_mem_write (reference : WrittenReference) :
    '>' ∉ Token.write (Token.ofLists reference.lists) := by
  refine Token.not_mem_write (by decide) (fun token member => ?_)
    (Token.not_mem_value_ofLists reference.isEntry (by decide))
  have named := (Token.among_ofLists reference.known reference.isEntry token member).known
  have plain : ∀ name ∈ filterTokens, '>' ∉ name.toList := by decide +kernel
  exact plain token.name named

/-- No token begins in front of the tokens. -/
theorem parenthesis_not_mem (reference : WrittenReference) {head : List Char}
    (plain : ∀ c ∈ head, c ∉ Token.brackets) : '(' ∉ head ++ reference.angled := by
  have inHead : '(' ∉ head := fun member => plain _ member (by decide)
  simp [angled, inHead, reference.not_mem_name (c := '(') (by decide)]

/-- The name of a reference is found between its brackets. -/
theorem angleReference?_text (reference : WrittenReference) {head : List Char} (free : '<' ∉ head) :
    Token.angleReference? (head ++ reference.text) = some reference.name.toList := by
  have shape : reference.text =
      '<' :: (reference.name.toList ++ '>' :: Token.write (Token.ofLists reference.lists)) := by
    simp [text, angled]
  have closed := Text.cutLastAt?_append_cons reference.angle_not_mem_write reference.name.toList
  have filled : ¬ reference.name.toList.isEmpty = true := by
    simpa using reference.filled
  rw [shape]
  simp only [Token.angleReference?, Text.cutAt?_append_cons free, closed, Option.bind_eq_bind,
    Option.bind_some]
  rw [if_neg filled, reference.trimmed]

/-- Nothing of a reference and its tokens is left beside it. -/
theorem withoutAngles_text (reference : WrittenReference) {head : List Char}
    (plain : ∀ c ∈ head, c ∉ Token.brackets) :
    withoutAngles (Token.remove filterTokens (head ++ reference.text)) = head := by
  have free : '<' ∉ head := fun member => plain _ member (by decide)
  have bare : Token.remove filterTokens (head ++ reference.text) = head ++ reference.angled := by
    rw [text, ← List.append_assoc]
    exact Token.remove_write apart_filterTokens (reference.parenthesis_not_mem plain)
      (Token.among_ofLists reference.known reference.isEntry)
  have closed : Text.cutLastAt? '>' (reference.name.toList ++ ['>']) =
      some (reference.name.toList, []) :=
    Text.cutLastAt?_append_cons List.not_mem_nil reference.name.toList
  rw [bare, withoutAngles, angled, Text.cutAt?_append_cons free]
  dsimp only
  rw [closed]
  exact List.append_nil head

/-- A reference is read back with its filter, and what stands in front of it is the
description. -/
theorem splitPayload_text (reference : WrittenReference) {head : List Char}
    (plain : ∀ c ∈ head, c ∉ Token.brackets) :
    splitPayload (head ++ reference.text) =
      (.reference reference.name
        ⟨reference.included, reference.excluded, reference.selected, .empty⟩,
        String.ofList (cleanDescription head)) := by
  have free : '<' ∉ head := fun member => plain _ member (by decide)
  have filter : Filter.ofLine (head ++ reference.text) =
      ⟨reference.included, reference.excluded, reference.selected, .empty⟩ := by
    rw [text, ← List.append_assoc]
    exact reference.ofLine_write (reference.parenthesis_not_mem plain)
  have first : (head ++ reference.text).find? (fun c => c == '{' || c == '<') = some '<' :=
    (find?_append_of_plain plain reference.text).trans rfl
  have payload : referencePayload? (head ++ reference.text) =
      some (.reference reference.name
        ⟨reference.included, reference.excluded, reference.selected, .empty⟩,
        String.ofList (cleanDescription head)) := by
    rw [referencePayload?, reference.angleReference?_text free, reference.withoutAngles_text plain,
      filter]
    simp
  rw [splitPayload, first, if_neg (by decide), payload]
  rfl

end WrittenReference

/-- An example is read back, and what stands in front of it is the description. -/
theorem splitPayload_example {head raw : List Char} (plain : ∀ c ∈ head, c ∉ Token.brackets)
    (opens : raw.head? = some '{') (closes : raw.getLast? = some '}') :
    splitPayload (head ++ raw) =
      (.json (String.ofList raw), String.ofList (cleanDescription head)) := by
  rcases List.head?_eq_some_iff.mp opens with ⟨behind, rfl⟩
  rcases List.eq_nil_or_concat behind with rfl | ⟨inner, final, rfl⟩
  · exact absurd (Option.some.inj closes) (by decide)
  rw [List.concat_eq_append] at closes ⊢
  have last : final = '}' := by
    rw [← List.cons_append, List.getLast?_concat] at closes
    exact Option.some.inj closes
  rw [last]
  have free : '{' ∉ head := fun member => plain _ member (by decide)
  have first : (head ++ '{' :: (inner ++ ['}'])).find? (fun c => c == '{' || c == '<') = some '{' :=
    (find?_append_of_plain plain _).trans rfl
  have closed : Text.cutLastAt? '}' (inner ++ ['}']) = some (inner, []) :=
    Text.cutLastAt?_append_cons List.not_mem_nil inner
  have fragment : Token.jsonFragment? (head ++ '{' :: (inner ++ ['}'])) =
      some ('{' :: (inner ++ ['}'])) := by
    simp [Token.jsonFragment?, Text.cutAt?_append_cons free, closed]
  have alone : without ('{' :: (inner ++ ['}'])) (head ++ '{' :: (inner ++ ['}'])) = head := by
    -- An occurrence begins with a brace, so the one at the end is the only one.
    have once : ¬ '{' :: (inner ++ ['}']) <:+: head ++ ('{' :: (inner ++ ['}'])).dropLast := by
      rw [Text.infix_append_iff_of_cons free]
      intro held
      have longer := held.length_le
      simp only [List.length_dropLast, List.length_cons] at longer
      omega
    have cut := Text.cut?_append (List.cons_ne_nil _ _) once []
    rw [List.append_nil] at cut
    rw [without, cut]
    exact List.append_nil head
  have payload : jsonPayload? (head ++ '{' :: (inner ++ ['}'])) =
      some (.json (String.ofList ('{' :: (inner ++ ['}']))),
        String.ofList (cleanDescription head)) := by
    simp [jsonPayload?, fragment, alone]
  rw [splitPayload, first, if_pos (by decide), payload]
  rfl

/-! ## Lines -/

/-- A line with a keyword and what follows it. -/
def line (keyword : String) (rest : List Char) : List Char :=
  '@' :: (keyword.toList ++ ' ' :: rest)

/-- The line of the body of a response. -/
def responseLine (status description payload : List Char) : List Char :=
  line "responseBody" (status ++ ' ' :: (middle description ++ payload))

/-- Blanks at the end of a line make no difference. -/
theorem ofLine?_append {blanks : List Char} (blank : ∀ c ∈ blanks, Text.isBlank c = true)
    (text : List Char) : ofLine? (text ++ blanks) = ofLine? text := by
  rw [ofLine?, Text.trim, Text.trimWhere_append blank, ofLine?, Text.trim]

theorem ofLine?_line {keyword : String} {rest : List Char}
    (word : ∀ c ∈ keyword.toList, Text.isNameChar c = true) (filled : rest ≠ [])
    (trimmed : Text.trim rest = rest) :
    ofLine? (line keyword rest) = ofKeyword? keyword (line keyword rest) rest := by
  have ends := (Text.not_of_trimWhere_eq_self trimmed).2
  have whole : Text.trim (line keyword rest) = line keyword rest := by
    apply Text.trim_eq_self
    · rintro c ⟨⟩
      decide
    · intro c last
      have front : line keyword rest = ('@' :: (keyword.toList ++ [' '])) ++ rest := by
        simp [line]
      rw [front, List.getLast?_append_of_ne_nil _ filled] at last
      exact ends c last
  have stop : ∀ c, (' ' :: rest).head? = some c → Text.isNameChar c = false := by
    rintro c ⟨⟩
    decide
  have span := Text.span_append word stop
  have behind : Text.trim (' ' :: rest) = rest := by
    rw [Text.trim, Text.trimWhere_cons (by decide)]
    exact trimmed
  rw [ofLine?, whole, line]
  change ofKeyword? (String.ofList (List.takeWhile _ _)) _ (Text.trim (List.dropWhile _ _)) = _
  rw [span.1, span.2, behind, String.ofList_toList]

/-- The status ends at the first blank, and the rest of the line holds the payload. -/
theorem ofLine?_responseLine_of_getLast? {status description payload : List Char}
    (filled : status ≠ []) (solid : ∀ c ∈ status, Text.isBlank c = false) (nonempty : payload ≠ [])
    (ends : ∀ c, payload.getLast? = some c → Text.isBlank c = false) :
    ofLine? (responseLine status description payload) =
      some (.responseBody (String.ofList status) (splitPayload (middle description ++ payload)).2
        (splitPayload (middle description ++ payload)).1) := by
  have rest : Text.trim (status ++ ' ' :: (middle description ++ payload)) =
      status ++ ' ' :: (middle description ++ payload) := by
    apply Text.trim_eq_self
    · intro c first
      rw [List.head?_append_of_ne_nil _ filled] at first
      exact solid c (List.mem_of_mem_head? first)
    · intro c last
      have front : status ++ ' ' :: (middle description ++ payload) =
          (status ++ ' ' :: middle description) ++ payload := by
        simp
      rw [front, List.getLast?_append_of_ne_nil _ nonempty] at last
      exact ends c last
  have blank : Text.isBlank ' ' = true := by decide
  have cut := Text.cutWhere?_append_cons solid blank (middle description ++ payload)
  have begins := List.append_ne_nil_of_left_ne_nil filled (' ' :: (middle description ++ payload))
  have word := List.all_eq_true.mp (by decide : "responseBody".toList.all Text.isNameChar = true)
  rw [responseLine, ofLine?_line word begins rest]
  change readResponseBody? _ = _
  rw [readResponseBody?, cut, Option.getD_some]
  dsimp only
  rw [if_neg (by simpa using filled)]

theorem ofLine?_responseLine {status description payload : List Char} (filled : status ≠ [])
    (solid : ∀ c ∈ status, Text.isBlank c = false) (nonempty : payload ≠ [])
    (trimmed : Text.trim payload = payload) :
    ofLine? (responseLine status description payload) =
      some (.responseBody (String.ofList status) (splitPayload (middle description ++ payload)).2
        (splitPayload (middle description ++ payload)).1) :=
  ofLine?_responseLine_of_getLast? filled solid nonempty (Text.not_of_trimWhere_eq_self trimmed).2

theorem ofLine?_requestLine {payload : List Char} (nonempty : payload ≠ [])
    (trimmed : Text.trim payload = payload) :
    ofLine? (line "requestBody" payload) = some (.requestBody (splitPayload payload).1) := by
  have word := List.all_eq_true.mp (by decide : "requestBody".toList.all Text.isNameChar = true)
  rw [ofLine?_line word nonempty trimmed]
  rfl

theorem WrittenReference.trim_text (reference : WrittenReference) :
    Text.trim reference.text = reference.text := by
  apply Text.trim_eq_self
  · rintro c ⟨⟩
    decide
  · intro c last
    rw [text] at last
    by_cases bare : Token.ofLists reference.lists = []
    · have shape : reference.angled = ('<' :: reference.name.toList) ++ ['>'] := rfl
      rw [bare, Token.write, List.append_nil, shape, List.getLast?_concat] at last
      exact Option.some.inj last ▸ by decide
    · rw [List.getLast?_append, Token.getLast?_write bare] at last
      exact Option.some.inj last ▸ by decide

theorem trim_example {raw : List Char} (opens : raw.head? = some '{')
    (closes : raw.getLast? = some '}') : Text.trim raw = raw :=
  Text.trim_eq_self (fun c first => Option.some.inj (opens.symm.trans first) ▸ by decide)
    fun c last => Option.some.inj (closes.symm.trans last) ▸ by decide

/-- The directive of a body is what its line was written for: the line of a response gives the
status, the description and the reference with its lists, or the example, and the line of a
request gives the same payload. -/
theorem ofLine?_written_bodies {status description : String} (filled : status ≠ "")
    (solid : ∀ c ∈ status.toList, Text.isBlank c = false)
    (described : IsDescription description.toList) (reference : WrittenReference) :
    ofLine? (responseLine status.toList description.toList reference.text) =
      some (.responseBody status description (.reference reference.name
        ⟨reference.included, reference.excluded, reference.selected, .empty⟩)) ∧
    ofLine? (line "requestBody" reference.text) =
      some (.requestBody (.reference reference.name
        ⟨reference.included, reference.excluded, reference.selected, .empty⟩)) ∧
    ∀ raw : String, raw.toList.head? = some '{' → raw.toList.getLast? = some '}' →
      ofLine? (responseLine status.toList description.toList raw.toList) =
        some (.responseBody status description (.json raw)) ∧
      ofLine? (line "requestBody" raw.toList) = some (.requestBody (.json raw)) := by
  have statusFilled : status.toList ≠ [] := by
    simpa using filled
  have plain := plain_middle described
  have remark := cleanDescription_middle described
  have begins : reference.text ≠ [] := List.cons_ne_nil _ _
  have nothing : ∀ c ∈ ([] : List Char), c ∉ Token.brackets := nofun
  refine ⟨?_, ?_, fun raw opens closes => ?_⟩
  · rw [ofLine?_responseLine statusFilled solid begins reference.trim_text,
      reference.splitPayload_text plain, remark]
    simp
  · have payload := reference.splitPayload_text nothing
    rw [List.nil_append] at payload
    rw [ofLine?_requestLine begins reference.trim_text, payload]
  · have trimmed := trim_example opens closes
    have nonempty : raw.toList ≠ [] := by
      intro none
      rw [none] at opens
      cases opens
    have payload := splitPayload_example nothing opens closes
    rw [List.nil_append] at payload
    rw [ofLine?_responseLine statusFilled solid nonempty trimmed,
      splitPayload_example plain opens closes, remark, ofLine?_requestLine nonempty trimmed,
      payload]
    simp

/-- A page of users with their posts. -/
def pagedUsers : WrittenReference where
  name := "User[]"
  included := ["posts", "posts.author"]
  excluded := ["email"]
  selected := []
  filled := by decide
  trimmed := by decide +kernel
  plain := List.forall_iff_forall_mem.mp (by decide)
  written := by
    intro entry member
    simp only [List.append_nil, List.cons_append, List.nil_append, List.mem_cons,
      List.not_mem_nil, or_false] at member
    rcases member with rfl | rfl | rfl <;>
      exact ⟨by decide, List.forall_iff_forall_mem.mp (by decide),
        List.forall_iff_forall_mem.mp (by decide)⟩

theorem ofLine?_written_bodies_users :
    ofLine? ("@responseBody 200 - Users - paged - " ++
        "<User[]>.with(posts, posts.author).exclude(email)").toList =
      some (.responseBody "200" "Users - paged"
        (.reference "User[]" ⟨["posts", "posts.author"], ["email"], [], .empty⟩)) ∧
    ofLine? "@responseBody 200 - Users - paged - \x7b\"total\": 1\x7d".toList =
      some (.responseBody "200" "Users - paged" (.json "\x7b\"total\": 1\x7d")) := by
  have described : IsDescription "Users - paged".toList := by
    have cut : Text.piecesBetween separator "Users - paged".toList =
        ["Users".toList, "paged".toList] := by decide +kernel
    right
    intro part member
    rw [cut] at member
    simp only [List.mem_cons, List.not_mem_nil, or_false] at member
    rcases member with rfl | rfl <;>
      exact ⟨by decide, by decide +kernel, by decide, by decide,
        List.forall_iff_forall_mem.mp (by decide)⟩
  have filled : "200" ≠ "" := by decide
  have solid : ∀ c ∈ "200".toList, Text.isBlank c = false :=
    List.forall_iff_forall_mem.mp (by decide)
  have read := ofLine?_written_bodies filled solid described pagedUsers
  have referenceLine : responseLine "200".toList "Users - paged".toList pagedUsers.text =
      ("@responseBody 200 - Users - paged - " ++
        "<User[]>.with(posts, posts.author).exclude(email)").toList := by
    decide +kernel
  have exampleLine : responseLine "200".toList "Users - paged".toList
      "\x7b\"total\": 1\x7d".toList =
        "@responseBody 200 - Users - paged - \x7b\"total\": 1\x7d".toList := by
    decide +kernel
  rw [← referenceLine, ← exampleLine]
  exact ⟨read.1, (read.2.2 _ (by decide) (by decide)).1⟩

end Directive
end Routebook
