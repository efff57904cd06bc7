import Mathlib.Data.List.Induction
import Routebook.Notes
import Routebook.Proofs.Entries

namespace Routebook

/-!
# What a comment block says

The lines of a comment block are folded into one annotation, in which ten kinds of directives
meet: two of them write the responses, two the body of the request, two the parameters.  This
module turns the fold around.  For each subject of an annotation it says which directives of
the block speak about it, and the annotation is what these directives say: the last text, the
last body that can be read, the overlay of all headers and of all parameters, and the responses
in the order in which their statuses are first named.

One equation for each subject says what a single directive does to it.  Everything about whole
blocks is an induction from the last line.
-/

/-! ## What a directive speaks about -/

/-- The texts of an annotation. -/
inductive NotesText where
  | summary
  | description
  | operationId
  | tag

/-- The text of an annotation. -/
def Notes.text? (notes : Notes) : NotesText → Option String
  | .summary => notes.summary
  | .description => notes.description
  | .operationId => notes.operationId
  | .tag => notes.tag

/-- The payload is a reference or an example that can be read. -/
def Payload.isReadable : Payload → Bool
  | .reference _ _ => true
  | .json raw => (Json.read? raw.toList).isSome
  | .none => false

/-- The headers of a line: its own one, or those of its groups in their order.  A group that the
options do not have is passed over. -/
def HeaderText.headers (options : Options) : HeaderText → List (String × Header)
  | .groups names => (names.filterMap options.commonHeaders.get?).flatMap (·.entries)
  | .single name description tokens => [(name, ⟨description, Notes.headerSchema tokens.toList⟩)]

namespace Directive

/-- What the directive has for a text of the annotation. -/
def text? : NotesText → Directive → Option String
  | .summary, .summary text => some text
  | .description, .description text => some text
  | .operationId, .operationId text => some text
  | .tag, .tag text => some text
  | _, _ => none

/-- The status of the response that the directive is about. -/
def status? : Directive → Option String
  | .responseBody status _ _ => some status
  | .responseHeader status _ => some status
  | _ => none

/-- What the directive says about the body of the response with the status. -/
def remark? (status : String) : Directive → Option (String × Payload)
  | .responseBody other remark payload => if other = status then some (remark, payload) else none
  | _ => none

/-- The headers that the directive adds to the response with the status. -/
def headers (options : Options) (status : String) : Directive → List (String × Header)
  | .responseHeader other header => if other = status then header.headers options else []
  | _ => []

/-- The body of the request, if the directive has one that can be read. -/
def requestBody? (expansion : Expansion) : Directive → Option Body
  | .requestBody payload => Notes.bodyOf? expansion payload
  | .requestForm payload => Notes.formOf? payload
  | _ => none

/-- The parameters of a line: its own one, or those of its groups in their order, each under its
name. -/
def parameters (options : Options) : Directive → List (String × Parameter)
  | .parameter location name about tokens =>
    [(name, Notes.parameterOf location name about tokens)]
  | .parameterGroups names =>
    (names.filterMap options.commonParameters.get?).flatten.map fun item => (item.name, item)
  | _ => []

end Directive

/-! ## What a block says -/

/-- The response is what the directives of a block say about its status. -/
structure Response.Gathers (expansion : Expansion) (options : Options)
    (directives : List Directive) (status : String) (response : Response) : Prop where
  /-- The last line about the body describes the response. -/
  description : response.description =
    ((directives.filterMap (Directive.remark? status)).getLast?.map fun said =>
      Notes.responseDescription status said.1 said.2).getD (statusDescription status)
  /-- The last line with a payload that can be read has the body. -/
  body : response.body =
    ((directives.filterMap (Directive.remark? status)).filter (·.2.isReadable)).getLast?.bind
      fun said => Notes.bodyOf? expansion said.2
  headers : response.headers.Overlays (directives.flatMap (Directive.headers options status))

/-- The annotation is what the directives of a block say. -/
structure Notes.Gathers (expansion : Expansion) (options : Options)
    (directives : List Directive) (notes : Notes) : Prop where
  text : ∀ part, notes.text? part = (directives.filterMap (Directive.text? part)).getLast?
  requestBody : notes.requestBody =
    (directives.filterMap (Directive.requestBody? expansion)).getLast?
  parameters : notes.parameters.Overlays (directives.flatMap (Directive.parameters options))
  /-- Responses stand in the order in which their statuses are first named. -/
  statuses : notes.responses.keys = (directives.filterMap Directive.status?).eraseDups
  response : ∀ status, (notes.response status).Gathers expansion options directives status

/-! ## One more directive -/

section Last

variable {α β : Type} (values : List α) (value : α)

theorem getLast?_filterMap_concat (part : α → Option β) :
    ((values ++ [value]).filterMap part).getLast? =
      (part value).or (values.filterMap part).getLast? := by
  rw [List.filterMap_append, List.filterMap_cons, List.filterMap_nil]
  cases part value with
  | none => rw [List.append_nil, Option.none_or]
  | some last => rw [List.getLast?_concat, Option.some_or]

/-- The last value that passes a test, looked at further.  The test tells whether there is
anything to look at. -/
theorem getLast?_filter_bind {test : α → Bool} {part : α → Option β}
    (tells : ∀ value, (part value).isSome = test value) :
    (values.filter test).getLast?.bind part = (values.filterMap part).getLast? := by
  induction values using List.reverseRecOn with
  | nil => rfl
  | append_singleton values value inductionHypothesis =>
    rw [getLast?_filterMap_concat, List.filter_append, List.filter_cons, List.filter_nil,
      ← tells value]
    cases last : part value with
    | none => simpa using inductionHypothesis
    | some inner => simp [last]

end Last

theorem headersOf_eq (options : Options) (header : HeaderText) :
    Notes.headersOf options header = header.headers options := by
  cases header with
  | single => rfl
  | groups names =>
    rw [Notes.headersOf, HeaderText.headers]
    induction names with
    | nil => rfl
    | cons name names inductionHypothesis =>
      rw [List.flatMap_cons, inductionHypothesis, List.filterMap_cons]
      cases options.commonHeaders.get? name <;> rfl

theorem groupParameters_eq (options : Options) (names : List String) :
    Notes.groupParameters options names =
      (names.filterMap options.commonParameters.get?).flatten := by
  rw [Notes.groupParameters]
  induction names with
  | nil => rfl
  | cons name names inductionHypothesis =>
    rw [List.flatMap_cons, inductionHypothesis, List.filterMap_cons]
    cases options.commonParameters.get? name <;> rfl

theorem isSome_bodyOf? (expansion : Expansion) (payload : Payload) :
    (Notes.bodyOf? expansion payload).isSome = payload.isReadable := by
  cases payload with
  | reference | none => rfl
  | json raw => exact Option.isSome_map

namespace Notes

variable (expansion : Expansion) (options : Options) (notes : Notes) (directive : Directive)

theorem text?_apply (part : NotesText) :
    (notes.apply expansion options directive).text? part =
      (directive.text? part).or (notes.text? part) := by
  cases directive <;> cases part <;> rfl

theorem requestBody_apply :
    (notes.apply expansion options directive).requestBody =
      (directive.requestBody? expansion).or notes.requestBody := by
  cases directive <;> rfl

theorem parameters_apply :
    (notes.apply expansion options directive).parameters =
      notes.parameters.insertAll (directive.parameters options) := by
  cases directive with
  | parameterGroups names =>
    rw [Directive.parameters, ← groupParameters_eq]
    rfl
  | _ => rfl

theorem keys_responses_apply {named : List String}
    (ordered : notes.responses.keys = named.eraseDups) :
    (notes.apply expansion options directive).responses.keys =
      (named ++ directive.status?.toList).eraseDups := by
  cases directive with
  | responseBody | responseHeader => exact Keyed.keys_insert_of_keys_eq ordered _ _
  | _ => exact ordered.trans (congrArg List.eraseDups (List.append_nil named).symm)

theorem response_setResponse (status other : String) (response : Response) :
    (notes.setResponse status response).response other =
      if status = other then response else notes.response other := by
  unfold setResponse Notes.response
  rw [Keyed.get?_insert]
  by_cases same : status = other
  · rw [if_pos same, if_pos same.symm, Option.getD_some]
  · rw [if_neg same, if_neg (Ne.symm same)]

/-- What a directive does to a response.  A directive about another status, or about no
response at all, has nothing to say and leaves the response as it is. -/
theorem response_apply (status : String) :
    (notes.apply expansion options directive).response status =
      { description := ((directive.remark? status).map fun said =>
          responseDescription status said.1 said.2).getD (notes.response status).description
        headers := (notes.response status).headers.insertAll (directive.headers options status)
        body := ((directive.remark? status).bind fun said => bodyOf? expansion said.2).or
          (notes.response status).body } := by
  cases directive with
  | responseBody other remark payload =>
    have said : Directive.remark? status (.responseBody other remark payload) =
      if other = status then some (remark, payload) else none := rfl
    rw [apply, addResponseBody, response_setResponse, said]
    by_cases same : other = status
    · subst same
      rw [if_pos rfl, if_pos rfl]
      rfl
    · rw [if_neg same, if_neg same]
      rfl
  | responseHeader other header =>
    have added : Directive.headers options status (.responseHeader other header) =
      if other = status then header.headers options else [] := rfl
    rw [apply, addHeaders, response_setResponse, added, headersOf_eq]
    by_cases same : other = status
    · subst same
      rw [if_pos rfl, if_pos rfl]
      rfl
    · rw [if_neg same, if_neg same]
      rfl
  | _ => rfl

variable {expansion options notes directive} {directives : List Directive}

theorem Gathers.apply (gathers : notes.Gathers expansion options directives)
    (directive : Directive) :
    (notes.apply expansion options directive).Gathers expansion options
      (directives ++ [directive]) where
  text part := by rw [text?_apply, getLast?_filterMap_concat, gathers.text]
  requestBody := by rw [requestBody_apply, getLast?_filterMap_concat, gathers.requestBody]
  parameters := by
    rw [parameters_apply, List.flatMap_append, List.flatMap_singleton]
    exact gathers.parameters.insertAll _
  statuses := by
    rw [keys_responses_apply _ _ _ _ gathers.statuses, List.filterMap_append]
    cases named : directive.status? <;> simp [named]
  response status := by
    have known := gathers.response status
    have tells (said : String × Payload) :
        (bodyOf? expansion said.2).isSome = said.2.isReadable := isSome_bodyOf? expansion said.2
    rw [response_apply]
    refine ⟨?_, ?_, ?_⟩
    · rw [getLast?_filterMap_concat, known.description]
      cases directive.remark? status <;> rfl
    · -- A line that has no readable payload must not hide the body of an earlier one, so the
      -- filter is taken into the search before the last line is split off.
      rw [getLast?_filter_bind _ tells, List.filterMap_filterMap, getLast?_filterMap_concat,
        known.body, getLast?_filter_bind _ tells, List.filterMap_filterMap]
    · rw [List.flatMap_append, List.flatMap_singleton]
      exact known.headers.insertAll _

theorem gathers_blank (expansion : Expansion) (options : Options) (action : String) :
    (blank action).Gathers expansion options [] where
  text part := by cases part <;> rfl
  requestBody := rfl
  parameters := Keyed.overlays_empty
  statuses := rfl
  response _ := ⟨rfl, rfl, Keyed.overlays_empty⟩

theorem gathers_foldl (expansion : Expansion) (options : Options) (action : String)
    (directives : List Directive) :
    (directives.foldl (Notes.apply expansion options) (blank action)).Gathers expansion options
      directives := by
  induction directives using List.reverseRecOn with
  | nil => exact gathers_blank expansion options action
  | append_singleton directives directive inductionHypothesis =>
    rw [List.foldl_append]
    exact inductionHypothesis.apply directive

theorem action_ofLines (catalog : Catalog) (options : Options) (action : String)
    (lines : List String) : (ofLines catalog options action lines).action = action := by
  unfold ofLines
  apply List.foldlRecOn (motive := fun notes : Notes => notes.action = action)
  · rfl
  · intro notes kept directive _
    cases directive <;> exact kept

/-- A comment block is read subject by subject.  It has a response for every status that one of
its lines names, in the order of these lines.  A response is described by the last line about
its body, has the body of the last such line whose payload can be read, and has the headers of
all its header lines written one over the other.  So are the parameters of all parameter lines.
Every text, and the body of the request, is the one of the last line that has it. -/
theorem lines_gathered_by_subject (catalog : Catalog) (options : Options) (action : String)
    (lines : List String) :
    let notes := ofLines catalog options action lines
    let expansion := expansionOf catalog options
    let directives := lines.filterMap fun line => Directive.ofLine? line.toList
    notes.action = action ∧
    (∀ status, (notes.responses.get? status).isSome = true ↔ ∃ line ∈ lines,
      ∃ directive, Directive.ofLine? line.toList = some directive ∧
        directive.status? = some status) ∧
    notes.responses.keys = (directives.filterMap Directive.status?).eraseDups ∧
    (∀ status response, notes.responses.get? status = some response →
      response.description =
        ((directives.filterMap (Directive.remark? status)).getLast?.map fun said =>
          responseDescription status said.1 said.2).getD (statusDescription status) ∧
      response.body =
        ((directives.filterMap (Directive.remark? status)).filter (·.2.isReadable)).getLast?.bind
          (fun said => bodyOf? expansion said.2) ∧
      response.headers.Overlays (directives.flatMap (Directive.headers options status))) ∧
    notes.parameters.Overlays (directives.flatMap (Directive.parameters options)) ∧
    notes.requestBody = (directives.filterMap (Directive.requestBody? expansion)).getLast? ∧
    ∀ part, notes.text? part = (directives.filterMap (Directive.text? part)).getLast? := by
  intro notes expansion directives
  have gathers : notes.Gathers expansion options directives :=
    gathers_foldl expansion options action directives
  refine ⟨action_ofLines catalog options action lines, ?_, gathers.statuses, ?_,
    gathers.parameters, gathers.requestBody, gathers.text⟩
  · intro status
    rw [Keyed.isSome_get?_iff, gathers.statuses, List.mem_eraseDups, List.mem_filterMap]
    constructor
    · rintro ⟨directive, member, named⟩
      rcases List.mem_filterMap.mp member with ⟨line, among, read⟩
      exact ⟨line, among, directive, read, named⟩
    · rintro ⟨line, among, directive, read, named⟩
      exact ⟨directive, List.mem_filterMap.mpr ⟨line, among, read⟩, named⟩
  · intro status response found
    have known := gathers.response status
    rw [Notes.response, found, Option.getD_some] at known
    exact ⟨known.description, known.body, known.headers⟩

/-- A header line that names its response first, a body that can be read, and a later remark
without one. -/
def showLines : List String :=
  ["@responseHeader 200 - X-Total - The count", "@responseBody 404 - Not here",
    "@responseBody 200 - {}", "@responseBody 200 - One user", "@summary Show", "@summary Show it"]

theorem lines_gathered_by_subject_show :
    let notes := ofLines .initial .default "show" showLines
    notes.responses.keys = ["200", "404"] ∧ notes.text? .summary = some "Show it" ∧
    ∀ response, notes.responses.get? "200" = some response →
      response.description = "One user" ∧ response.body.isSome = true ∧
        response.headers.keys = ["X-Total"] := by
  intro notes
  obtain ⟨_, _, statuses, responses, _, _, texts⟩ :=
    lines_gathered_by_subject .initial .default "show" showLines
  refine ⟨?_, ?_, ?_⟩
  · rw [statuses]
    decide +kernel
  · rw [texts]
    decide +kernel
  · intro response found
    obtain ⟨description, body, headers⟩ := responses "200" response found
    refine ⟨?_, ?_, ?_⟩
    · rw [description]
      decide +kernel
    · rw [body]
      decide +kernel
    · rw [headers.keys]
      decide +kernel

end Notes
end Routebook
