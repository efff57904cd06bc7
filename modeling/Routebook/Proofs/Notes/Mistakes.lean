import Routebook.Proofs.Notes.Gathering
import Routebook.Proofs.Text.Cut
import Routebook.Proofs.Text.Trim

namespace Routebook

/-!
# Mistakes in a comment block

The author of a comment may misspell a keyword, forget a part of a directive, leave a brace of an
example open or name a group that the options do not have.  Such a line is passed over: the
annotation is the one of the other lines, whatever they have said already or say later.

Which lines are passed over is settled on both sides.  `Directive.IsRejected` lists what makes a
line no directive at all, and `Notes.IsMistake` adds the directives that have nothing to
contribute; every line outside of this list leaves a trace in some block.  The body of a response
is the one exception among the mistakes, for its line still describes the response.
-/

namespace Directive

/-! ## Lines that are no directives -/

def textKeywords : List String := ["summary", "description", "operationId", "tag"]

def parameterKeywords : List String := ["paramPath", "paramQuery", "paramHeader"]

def keywords : List String :=
  textKeywords ++ parameterKeywords ++
    ["responseBody", "responseHeader", "requestBody", "requestFormDataBody", "paramUse"]

/-- The argument of a header begins with a status, which is one word, and a name. -/
def NamesHeader (argument : List Char) : Prop :=
  ∃ status name others, parts argument = status :: name :: others ∧
    status ≠ [] ∧ ' ' ∉ status ∧ name ≠ []

/-- The first part of the argument of a parameter begins with a name, which is no token. -/
def NamesParameter (argument : List Char) : Prop :=
  ∃ name, ((parts argument).head?.bind fun part => (Text.words part).head?) = some name ∧
    name.head? ≠ some '@'

/-- Why a keyword with an argument is no directive. -/
@[mk_iff]
inductive Lacks (keyword : String) (argument : List Char) : Prop where
  | keyword (unknown : keyword ∉ keywords)
  /-- There is no text, or no status of a response. -/
  | text (kind : keyword ∈ "responseBody" :: textKeywords) (missing : argument = [])
  | header (kind : keyword = "responseHeader") (missing : ¬ NamesHeader argument)
  | parameter (kind : keyword ∈ parameterKeywords) (missing : ¬ NamesParameter argument)

/-- The line is an at sign with a keyword and an argument behind it. -/
def IsSplit (line : List Char) (keyword : String) (argument : List Char) : Prop :=
  ∃ text, Text.trim line = '@' :: text ∧ keyword = String.ofList (text.takeWhile Text.isNameChar) ∧
    argument = Text.trim (text.dropWhile Text.isNameChar)

/-- A line that is no directive: free text, or a keyword that lacks something. -/
inductive IsRejected (line : List Char) : Prop where
  | freeText (plain : (Text.trim line).head? ≠ some '@')
  | lacking {keyword : String} {argument : List Char} (parted : IsSplit line keyword argument)
      (lacks : Lacks keyword argument)

variable {argument : List Char}

theorem readResponseBody?_eq_none_iff (trimmed : Text.trim argument = argument) :
    readResponseBody? argument = none ↔ argument = [] := by
  cases argument with
  | nil => exact ⟨fun _ => rfl, fun _ => rfl⟩
  | cons c rest =>
    -- The status begins with the first character, which is no blank.
    have solid : Text.isBlank c = false := (Text.not_of_trimWhere_eq_self trimmed).1 c rfl
    rw [readResponseBody?, Text.cutWhere?, solid]
    cases Text.cutWhere? Text.isBlank rest <;> simp

theorem readResponseHeader?_eq_none_iff :
    readResponseHeader? argument = none ↔ ¬ NamesHeader argument := by
  rw [readResponseHeader?, NamesHeader]
  split
  next status name others parted =>
    rw [parted]
    by_cases named : status ≠ [] ∧ ' ' ∉ status ∧ name ≠ []
    · have complete : ¬(status.isEmpty || status.contains ' ' || name.isEmpty) = true := by
        simpa [and_assoc] using named
      rw [if_neg complete]
      simpa using named
    · have incomplete : (status.isEmpty || status.contains ' ' || name.isEmpty) = true := by
        by_contra complete
        exact named (by simpa [and_assoc] using complete)
      rw [if_pos incomplete]
      simpa using named
  next short =>
    refine iff_of_true rfl ?_
    rintro ⟨status, name, others, parted, _⟩
    exact short status name others parted

theorem readParameter?_eq_none_iff (location : ParameterLocation) :
    readParameter? location argument = none ↔ ¬ NamesParameter argument := by
  have first : ((parts argument).head?.map Text.words).bind List.head? =
      (parts argument).head?.bind fun part => (Text.words part).head? := by
    cases (parts argument).head? <;> rfl
  rw [readParameter?, NamesParameter, ← first]
  dsimp only
  cases ((parts argument).head?.map Text.words).bind List.head? with
  | none =>
    refine iff_of_true rfl ?_
    rintro ⟨name, found, _⟩
    cases found
  | some name =>
    rw [Option.bind_eq_bind, Option.bind_some]
    by_cases token : name.head? = some '@'
    · rw [if_pos (Text.startsWith_singleton_iff.mpr token)]
      refine iff_of_true rfl ?_
      rintro ⟨other, found, plain⟩
      exact plain (Option.some.inj found ▸ token)
    · rw [if_neg fun starts => token (Text.startsWith_singleton_iff.mp starts)]
      exact iff_of_false nofun (not_not_intro ⟨name, rfl, token⟩)

theorem ofKeyword?_eq_none_iff (keyword : String) (line : List Char)
    (trimmed : Text.trim argument = argument) :
    ofKeyword? keyword line argument = none ↔ Lacks keyword argument := by
  unfold ofKeyword?
  split
  case h_13 =>
    -- No keyword is this one, which the cases before it say one by one.
    refine iff_of_true rfl (.keyword ?_)
    simp_all [keywords, textKeywords, parameterKeywords]
  all_goals
    simp [lacks_iff, keywords, textKeywords, parameterKeywords, nonEmpty?,
      readResponseBody?_eq_none_iff trimmed, readResponseHeader?_eq_none_iff,
      readParameter?_eq_none_iff]

theorem ofLine?_eq_none_iff {line : List Char} : ofLine? line = none ↔ IsRejected line := by
  rw [ofLine?]
  split
  next text begins =>
    have trimmed : Text.trim (Text.trim (text.dropWhile Text.isNameChar)) =
        Text.trim (text.dropWhile Text.isNameChar) := Text.trimWhere_trimWhere _ _
    rw [ofKeyword?_eq_none_iff _ _ trimmed]
    constructor
    · exact fun lacks => .lacking ⟨text, begins, rfl, rfl⟩ lacks
    · intro rejected
      cases rejected with
      | freeText plain => exact absurd (by rw [begins]; rfl) plain
      | lacking parted lacks =>
        obtain ⟨other, same, rfl, rfl⟩ := parted
        obtain rfl : text = other := (List.cons.inj (begins.symm.trans same)).2
        exact lacks
  next plain =>
    refine iff_of_true rfl (.freeText ?_)
    intro begins
    obtain ⟨text, shape⟩ := List.head?_eq_some_iff.mp begins
    exact plain text shape

end Directive

namespace Notes

/-! ## Lines that are passed over -/

/-- The payload of a form is a map of properties in JSON. -/
def HoldsProperties (payload : Payload) : Prop :=
  ∃ raw tree properties, payload = .json raw ∧ Json.readTree? raw.toList = some tree ∧
    SchemaObject.propertiesOf? true tree = some properties

/-- A line with nothing to contribute to an annotation. -/
inductive IsMistake (options : Options) (line : String) : Prop where
  | rejected (unread : Directive.ofLine? line.toList = none)
  /-- A request without a body, or with an example that is malformed. -/
  | requestBody {payload : Payload}
      (read : Directive.ofLine? line.toList = some (.requestBody payload))
      (nothing : payload = .none ∨ ∃ raw, payload = .json raw ∧ Json.read? raw.toList = none)
  | requestForm {payload : Payload}
      (read : Directive.ofLine? line.toList = some (.requestForm payload))
      (nothing : ¬ HoldsProperties payload)
  /-- Groups that the options do not have.  A group without parameters is no better. -/
  | parameterGroups {names : List String}
      (read : Directive.ofLine? line.toList = some (.parameterGroups names))
      (nothing : ∀ name ∈ names, options.commonParameters.get? name = none ∨
        options.commonParameters.get? name = some [])

theorem bodyOf?_eq_none_iff (expansion : Expansion) (payload : Payload) :
    bodyOf? expansion payload = none ↔
      payload = .none ∨ ∃ raw, payload = .json raw ∧ Json.read? raw.toList = none := by
  cases payload with
  | reference | none => simp [bodyOf?]
  | json raw => simp [bodyOf?]

theorem formOf?_eq_none_iff (payload : Payload) :
    formOf? payload = none ↔ ¬ HoldsProperties payload := by
  unfold HoldsProperties
  cases payload with
  | reference | none => simp [formOf?]
  | json raw =>
    cases found : Json.readTree? raw.toList with
    | none => simp [formOf?, found]
    | some tree =>
      cases properties : SchemaObject.propertiesOf? true tree <;>
        simp [formOf?, found, properties]

theorem groupParameters_eq_nil_iff (options : Options) (names : List String) :
    groupParameters options names = [] ↔ ∀ name ∈ names,
      options.commonParameters.get? name = none ∨
        options.commonParameters.get? name = some [] := by
  rw [groupParameters, List.flatMap_eq_nil_iff]
  refine forall₂_congr fun name _ => ?_
  cases options.commonParameters.get? name <;> simp

section Lines

variable (catalog : Catalog) (options : Options) (action : String) (before after : List String)

/-- The lines behind some others are folded into the annotation of these. -/
theorem ofLines_append :
    ofLines catalog options action (before ++ after) =
      (after.filterMap fun line => Directive.ofLine? line.toList).foldl
        (apply (expansionOf catalog options) options)
        (ofLines catalog options action before) := by
  rw [ofLines, List.filterMap_append, List.foldl_append]
  rfl

theorem ofLines_append_cons_of_none {line : String}
    (unread : Directive.ofLine? line.toList = none) :
    ofLines catalog options action (before ++ line :: after) =
      ofLines catalog options action (before ++ after) := by
  rw [ofLines_append, List.filterMap_cons, unread, ofLines_append]

theorem ofLines_append_cons_of_some {line : String} {directive : Directive}
    (read : Directive.ofLine? line.toList = some directive) :
    ofLines catalog options action (before ++ line :: after) =
      (after.filterMap fun line => Directive.ofLine? line.toList).foldl
        (apply (expansionOf catalog options) options)
        ((ofLines catalog options action before).apply (expansionOf catalog options) options
          directive) := by
  rw [ofLines_append, List.filterMap_cons, read, List.foldl_cons]

end Lines

variable {expansion : Expansion} {options : Options} {line : String}

/-- A mistake that is a directive changes no annotation. -/
theorem IsMistake.apply_eq (mistake : IsMistake options line) {directive : Directive}
    (read : Directive.ofLine? line.toList = some directive) (expansion : Expansion)
    (notes : Notes) : notes.apply expansion options directive = notes := by
  cases mistake with
  | rejected unread => cases unread.symm.trans read
  | requestBody known nothing =>
    obtain rfl := Option.some.inj (known.symm.trans read)
    rw [apply, (bodyOf?_eq_none_iff expansion _).mpr nothing, Option.none_or]
  | requestForm known nothing =>
    obtain rfl := Option.some.inj (known.symm.trans read)
    rw [apply, (formOf?_eq_none_iff _).mpr nothing, Option.none_or]
  | parameterGroups known nothing =>
    obtain rfl := Option.some.inj (known.symm.trans read)
    rw [apply, (groupParameters_eq_nil_iff options _).mpr nothing]
    rfl

/-- A directive that changes nothing in an empty annotation comes from a mistake. -/
theorem IsMistake.of_apply_blank {directive : Directive}
    (read : Directive.ofLine? line.toList = some directive) {action : String}
    (same : (blank action).apply expansion options directive = blank action) :
    IsMistake options line := by
  cases directive with
  | summary => cases congrArg Notes.summary same
  | description => cases congrArg Notes.description same
  | operationId => cases congrArg Notes.operationId same
  | tag => cases congrArg Notes.tag same
  | responseBody | responseHeader => cases congrArg (·.responses.keys) same
  | parameter => cases congrArg (·.parameters.keys) same
  | requestBody payload =>
    have body := congrArg Notes.requestBody same
    rw [requestBody_apply] at body
    have nothing := (Option.or_eq_none_iff.mp body).1
    exact .requestBody read ((bodyOf?_eq_none_iff expansion payload).mp nothing)
  | requestForm payload =>
    have body := congrArg Notes.requestBody same
    rw [requestBody_apply] at body
    have nothing := (Option.or_eq_none_iff.mp body).1
    exact .requestForm read ((formOf?_eq_none_iff payload).mp nothing)
  | parameterGroups names =>
    refine .parameterGroups read ((groupParameters_eq_nil_iff options names).mp ?_)
    rw [List.eq_nil_iff_forall_not_mem]
    intro parameter member
    have known : parameter.name ∈ ((blank action).apply expansion options
        (.parameterGroups names)).parameters.keys := by
      refine Keyed.mem_keys_insertAll.mpr (Or.inr ?_)
      exact List.mem_map.mpr ⟨_, List.mem_map_of_mem member, rfl⟩
    rw [same] at known
    cases known

/-- A line is no directive exactly if it is free text, has an unknown keyword or lacks a part that
its keyword needs.  A line may be deleted from every block exactly if it is no directive, asks for
a body of the request or a form that it does not have or that is malformed, or names only groups
that the options do not have.  A line about a response with a malformed example does what the same
line would do without it: it describes the response, which keeps its body and its headers. -/
theorem mistakes_leave_no_trace (catalog : Catalog) (options : Options) (line : String) :
    (Directive.ofLine? line.toList = none ↔ Directive.IsRejected line.toList) ∧
    (IsMistake options line ↔ ∀ action before after,
      ofLines catalog options action (before ++ line :: after) =
        ofLines catalog options action (before ++ after)) ∧
    ∀ status remark raw,
      Directive.ofLine? line.toList = some (.responseBody status remark (.json raw)) →
      Json.read? raw.toList = none → ∀ action before after,
        ofLines catalog options action (before ++ line :: after) =
          (after.filterMap fun line => Directive.ofLine? line.toList).foldl
            (apply (expansionOf catalog options) options)
            ((ofLines catalog options action before).apply (expansionOf catalog options) options
              (.responseBody status remark .none)) ∧
        (ofLines catalog options action (before ++ [line])).response status =
          { (ofLines catalog options action before).response status with
            description := if remark.isEmpty then statusDescription status else remark } := by
  refine ⟨Directive.ofLine?_eq_none_iff, ⟨?_, ?_⟩, ?_⟩
  · intro mistake action before after
    cases read : Directive.ofLine? line.toList with
    | none => exact ofLines_append_cons_of_none catalog options action before after read
    | some directive =>
      rw [ofLines_append_cons_of_some _ _ _ _ _ read, mistake.apply_eq read, ← ofLines_append]
  · intro deleted
    cases read : Directive.ofLine? line.toList with
    | none => exact .rejected read
    | some directive =>
      have alone := deleted "" [] []
      rw [ofLines_append_cons_of_some _ _ _ _ _ read] at alone
      exact .of_apply_blank read alone
  · intro status remark raw read malformed action before after
    -- Without a body the payload is not looked at again.
    have same (notes : Notes) :
        notes.apply (expansionOf catalog options) options
            (.responseBody status remark (.json raw)) =
          notes.apply (expansionOf catalog options) options
            (.responseBody status remark .none) := by
      have nothing : bodyOf? (expansionOf catalog options) (.json raw) = none :=
        (bodyOf?_eq_none_iff _ _).mpr (Or.inr ⟨raw, rfl, malformed⟩)
      rw [apply, apply, addResponseBody, addResponseBody, nothing]
      rfl
    rw [ofLines_append_cons_of_some _ _ _ _ _ read, ofLines_append_cons_of_some _ _ _ _ _ read,
      same]
    refine ⟨rfl, ?_⟩
    rw [List.filterMap_nil, List.foldl_nil, response_apply, Directive.remark?, if_pos rfl]
    rfl

/-- A group with a misspelled name, and an example that is not finished behind one that is. -/
theorem mistakes_leave_no_trace_index :
    ofLines .initial .default "index" ["@summary Users", "@paramUse(sortible)", "@tag admin"] =
      ofLines .initial .default "index" ["@summary Users", "@tag admin"] ∧
    (ofLines .initial .default "index" ["@responseBody 200 - {}",
        "@responseBody 200 - Broken - \x7b\"id\": \x7d"]).response "200" =
      { (ofLines .initial .default "index" ["@responseBody 200 - {}"]).response "200" with
        description := "Broken" } := by
  have unknown : IsMistake .default "@paramUse(sortible)" := by
    have read : Directive.ofLine? "@paramUse(sortible)".toList =
        some (.parameterGroups ["sortible"]) := by decide +kernel
    exact .parameterGroups read (by decide +kernel)
  have read : Directive.ofLine? "@responseBody 200 - Broken - \x7b\"id\": \x7d".toList =
      some (.responseBody "200" "Broken" (.json "\x7b\"id\": \x7d")) := by decide +kernel
  have malformed : Json.read? "\x7b\"id\": \x7d".toList = none := by decide +kernel
  obtain ⟨_, deletion, _⟩ := mistakes_leave_no_trace .initial .default "@paramUse(sortible)"
  obtain ⟨_, _, keeps⟩ := mistakes_leave_no_trace .initial .default
    "@responseBody 200 - Broken - \x7b\"id\": \x7d"
  refine ⟨deletion.mp unknown "index" ["@summary Users"] ["@tag admin"], ?_⟩
  exact (keeps "200" "Broken" _ read malformed "index" ["@responseBody 200 - {}"] []).2

end Notes
end Routebook
