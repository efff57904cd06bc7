import Routebook.Proofs.Document.Placeholders
import Routebook.Proofs.Document.Tags
import Routebook.Proofs.Json.Place

namespace Routebook

/-!
# What an operation is made of

An operation takes four things from the annotation of its action and completes each of them in a
way of its own.  Responses are completed by expected ones behind them, parameters are laid over
those of the pattern, a body is only supplied where there is none, and security comes from the
middleware alone.  `Operation.Completes` says of each what is authored, what is added and where it
stands, so that nothing authored can be missing, moved or written twice.

Responses and parameters are tables.  A new key comes last in a table, and a known one keeps its
place, which is all that is needed about either of them.
-/

/-- The last of some parameters that has the name. -/
def lastNamed? (parameters : List Parameter) (name : String) : Option Parameter :=
  (parameters.filter (·.name = name)).getLast?

/-- Parameters that are written under their names leave the last one of each name. -/
theorem lastAt?_map_name (parameters : List Parameter) (name : String) :
    lastAt? name (parameters.map fun parameter => (parameter.name, parameter)) =
      lastNamed? parameters name := by
  induction parameters using List.reverseRecOn with
  | nil => rfl
  | append_singleton parameters last inductionHypothesis =>
    rw [List.map_append, List.map_singleton, lastAt?_append, lastAt?_singleton,
      inductionHypothesis, lastNamed?, lastNamed?, List.filter_append]
    by_cases same : last.name = name
    · rw [if_pos same.symm, List.filter_cons_of_pos (by simpa using same), List.filter_nil,
        List.getLast?_concat]
      rfl
    · rw [if_neg (Ne.symm same), List.filter_cons_of_neg (by simpa using same), List.filter_nil,
        List.append_nil]
      rfl

/-- Values that know their keys give the keys back. -/
theorem Keyed.map_values {α : Type} {table : Keyed α} {name : α → String}
    (named : table.All fun key value => name value = key) : table.values.map name = table.keys := by
  rw [values, keys, entryKeys, List.map_map]
  exact List.map_congr_left named

/-- A middleware is a securing one exactly if it has its name or continues it by a colon. -/
theorem Options.isSecurity_iff {options : Options} {middleware : String} :
    options.isSecurity middleware = true ↔ ∃ name ∈ options.securityMiddleware,
      middleware = name ∨ ∃ rest, middleware = name ++ ":" ++ rest := by
  have continues : ∀ name : String, matchesSecurity middleware name = true ↔
      middleware = name ∨ ∃ rest, middleware = name ++ ":" ++ rest := by
    intro name
    unfold matchesSecurity
    cases stripped : Text.stripStart? name.toList middleware.toList with
    | none =>
      refine iff_of_false Bool.false_ne_true ?_
      rw [Text.stripStart?_eq_none_iff] at stripped
      rintro (rfl | ⟨rest, rfl⟩)
      · exact stripped (List.prefix_refl _)
      · exact stripped ⟨(":" ++ rest).toList, by simp⟩
    | some rest =>
      have whole : middleware.toList = name.toList ++ rest :=
        Text.stripStart?_eq_some_iff.mp stripped
      dsimp only
      rw [Bool.or_eq_true, List.isEmpty_iff, beq_iff_eq]
      apply or_congr
      · rw [← String.toList_inj, whole, List.append_right_eq_self]
      · rw [List.head?_eq_some_iff]
        constructor
        · rintro ⟨behind, rfl⟩
          refine ⟨String.ofList behind, String.toList_inj.mp ?_⟩
          rw [whole]
          simp
        · rintro ⟨behind, rfl⟩
          refine ⟨behind.toList, ?_⟩
          simpa using whole.symm
  rw [isSecurity, List.any_eq_true]
  simp only [continues]

namespace Operation

variable {options : Options} {route : Route} {method : Method} {notes : Option Notes}

/-! ## Responses -/

/-- The responses of an annotation, none without one. -/
def annotatedResponses (notes : Option Notes) : Keyed Response :=
  (notes.map (·.responses)).getD .empty

/-- Expected responses come behind those that are known, each unless its status is known. -/
theorem entries_foldl_addMissing {statuses : List String} (distinct : statuses.Nodup)
    (responses : Keyed Response) :
    (statuses.foldl addMissing responses).entries = responses.entries ++
      (statuses.filter (· ∉ responses.keys)).map fun status => (status, .ofStatus status) := by
  induction statuses generalizing responses with
  | nil => exact (List.append_nil _).symm
  | cons first rest inductionHypothesis =>
    have apart := List.nodup_cons.mp distinct
    rw [List.foldl_cons, inductionHypothesis apart.2, addMissing]
    by_cases known : first ∈ responses.keys
    · have present : responses.contains first = true := Keyed.isSome_get?_iff.mpr known
      rw [if_pos present, List.filter_cons_of_neg (by simpa using known)]
    · have missing : ¬ responses.contains first = true := mt Keyed.isSome_get?_iff.mp known
      have entries : (responses.insert first (.ofStatus first)).entries =
          responses.entries ++ [(first, .ofStatus first)] := insertEntry_of_not_mem known _
      have others : rest.filter (· ∉ (responses.insert first (.ofStatus first)).keys) =
          rest.filter (· ∉ responses.keys) := by
        apply List.filter_congr
        intro status member
        have other : status ≠ first := by
          rintro rfl
          exact apart.1 member
        rw [Keyed.keys_insert, if_neg known]
        simp [other]
      rw [if_neg missing, entries, others, List.filter_cons_of_pos (by simpa using known),
        List.map_cons, List.append_assoc, List.singleton_append]

theorem nodup_expectedStatuses (method : Method) (secured : Bool) :
    (expectedStatuses method secured).Nodup := by
  cases method <;> cases secured <;> decide

/-! ## Parameters -/

/-- The parameters of an annotation, none without one. -/
def annotatedParameters (notes : Option Notes) : Keyed Parameter :=
  (notes.map (·.parameters)).getD .empty

theorem mergeParameters_eq (route : Route) (notes : Option Notes) :
    mergeParameters route notes =
      (Keyed.ofList (route.parameters.map fun parameter => (parameter.name, parameter))).insertAll
        (annotatedParameters notes).entries := by
  cases notes <;> rfl

/-- The names of the pattern come first, in its order, and those of the annotation alone behind
them. -/
theorem keys_mergeParameters (route : Route) (notes : Option Notes) :
    (mergeParameters route notes).keys = (route.parameters.map (·.name)).eraseDups ++
      (annotatedParameters notes).keys.filter (· ∉ route.parameters.map (·.name)) := by
  have declared : (Keyed.ofList (route.parameters.map fun parameter =>
      (parameter.name, parameter))).keys = (route.parameters.map (·.name)).eraseDups := by
    rw [(Keyed.overlays_ofList _).keys, entryKeys, List.map_map]
    rfl
  rw [mergeParameters_eq, Keyed.keys_insertAll _ (annotatedParameters notes).distinct, declared]
  simp only [List.mem_eraseDups]
  rfl

/-- Under a name stands the annotated parameter, or else the last one of the pattern. -/
theorem get?_mergeParameters (route : Route) (notes : Option Notes) (name : String) :
    (mergeParameters route notes).get? name =
      ((annotatedParameters notes).get? name).or (lastNamed? route.parameters name) := by
  rw [mergeParameters_eq, Keyed.get?_insertAll _ (annotatedParameters notes).distinct,
    (Keyed.overlays_ofList _).value, lastAt?_map_name]
  rfl

theorem all_mergeParameters (named : ∀ noted ∈ notes, Notes.NamesParameters noted) :
    (mergeParameters route notes).All fun name parameter => parameter.name = name := by
  rw [mergeParameters_eq]
  refine Keyed.All.insertAll (Keyed.All.insertAll (Keyed.all_empty _) ?_) ?_
  · intro entry member
    rcases List.mem_map.mp member with ⟨parameter, _, rfl⟩
    rfl
  · cases notes with
    | none => exact nofun
    | some noted => exact named noted rfl

/-! ## Security -/

theorem entryAt?_optionalField_of_ne {α : Type} {key other : String} (different : other ≠ key)
    (encode : α → Json) (value : Option α) :
    entryAt? key (Json.optionalField other encode value) = none := by
  cases value with
  | none => rfl
  | some value =>
    apply entryAt?_eq_none_of_not_mem
    simpa [Json.optionalField, entryKeys] using different.symm

/-- What the document requires of authorized requests. -/
def requirement : Json :=
  .list [.object [(securityScheme, .list [.text "access"])]]

/-- The document has the requirement where requests must be authorized. -/
theorem get?_security (operation : Operation) :
    operation.toJson.get? "security" = if operation.secured then some requirement else none := by
  have parameters : entryAt? "security" (if operation.parameters.isEmpty then []
      else [("parameters", Json.list (operation.parameters.map Parameter.toDocument))]) =
        none := by
    split <;> rfl
  have responses : entryAt? "security"
      [("responses", Json.object (operation.responses.map Response.toJson).entries)] = none := rfl
  rw [toJson, Json.get?_object]
  simp only [entryAt?_append, parameters, responses, Option.none_or,
    entryAt?_optionalField_of_ne (by decide : "summary" ≠ "security"),
    entryAt?_optionalField_of_ne (by decide : "description" ≠ "security"),
    entryAt?_optionalField_of_ne (by decide : "operationId" ≠ "security"),
    entryAt?_optionalField_of_ne (by decide : "tags" ≠ "security"),
    entryAt?_optionalField_of_ne (by decide : "requestBody" ≠ "security")]
  split <;> rfl

/-! ## Completed operations -/

/-- The operation is the annotation, completed for a method of a route.

The authored responses come first as they are, and behind them those of the statuses that are
expected and not authored, with nothing but the description of the status.  Each name has one
parameter: those of the pattern come first, and every name has the annotated parameter if there is
one.  A body is supplied for methods that have one, and the operation is secured by the
middleware of the route. -/
structure Completes (options : Options) (route : Route) (method : Method) (notes : Option Notes)
    (operation : Operation) : Prop where
  responses : operation.responses.entries = (annotatedResponses notes).entries ++
    ((expectedStatuses method operation.secured).filter
      (· ∉ (annotatedResponses notes).keys)).map fun status =>
        (status, ⟨statusDescription status, .empty, none⟩)
  distinct : (operation.parameters.map (·.name)).Nodup
  names : operation.parameters.map (·.name) = (route.parameters.map (·.name)).eraseDups ++
    (annotatedParameters notes).keys.filter (· ∉ route.parameters.map (·.name))
  parameter : ∀ parameter ∈ operation.parameters,
    ((annotatedParameters notes).get? parameter.name).or
      (lastNamed? route.parameters parameter.name) = some parameter
  body : operation.requestBody = (notes.bind (·.requestBody)).or
    (if method ∈ [.post, .put, .patch] then some ⟨"application/json", .ofType "object", none⟩
      else none)
  secured : operation.secured = true ↔ ∃ middleware ∈ route.middleware,
    ∃ name ∈ options.securityMiddleware,
      middleware = name ∨ ∃ rest, middleware = name ++ ":" ++ rest
  security : operation.toJson.get? "security" =
    if operation.secured then some requirement else none

theorem completes_of (options : Options) (route : Route) (method : Method)
    (named : ∀ noted ∈ notes, Notes.NamesParameters noted) :
    (Operation.of options route method notes).Completes options route method notes := by
  have names : (Operation.of options route method notes).parameters.map (·.name) =
      (mergeParameters route notes).keys := Keyed.map_values (all_mergeParameters named)
  refine ⟨entries_foldl_addMissing (nodup_expectedStatuses _ _) _, ?_, ?_, ?_, ?_, ?_,
    get?_security _⟩
  · rw [names]
    exact (mergeParameters route notes).distinct
  · rw [names, keys_mergeParameters]
  · intro parameter member
    rcases List.mem_map.mp member with ⟨entry, written, rfl⟩
    have keyed : entry.2.name = entry.1 := all_mergeParameters named entry written
    rw [keyed, ← get?_mergeParameters]
    exact entryAt?_eq_some_of_mem (mergeParameters route notes).distinct written
  · have supplied : (hasBody method = true) = (method ∈ [.post, .put, .patch]) := by
      cases method <;> decide
    dsimp only [Operation.of]
    simp only [supplied]
    rfl
  · dsimp only [Operation.of]
    rw [List.any_eq_true]
    simp only [Options.isSecurity_iff]

end Operation

/-! ## The operations of a route -/

namespace Outline

/-- A route puts the annotation of its action, completed for each of its documented methods, into
the outline, whatever the outline held before.  The annotation is that of any block of comments,
or there is none. -/
theorem authored_parts_kept_and_completed (catalog : Catalog) (authoring options : Options)
    (outline : Outline) (block : Option CommentBlock) (route : Route) (method : Method)
    (shown : documents options route = true)
    (documented : method ∈ documentedMethods options route.methods) :
    let notes := block.map fun block => Notes.ofLines catalog authoring block.action block.lines
    ∃ operation,
      (outline.addRoute options route notes).operation? route.path method.key = some operation ∧
        operation.Completes options route method notes := by
  intro notes
  refine ⟨.of options route method notes, ?_, Operation.completes_of options route method ?_⟩
  · rw [addRoute, if_pos shown, operation?_foldl_addOperation, if_pos ⟨rfl, documented⟩]
  · intro noted member
    rcases Option.map_eq_some_iff.mp member with ⟨block, _, rfl⟩
    exact Notes.namesParameters_ofLines catalog authoring _ _

/-- The request to change a user, for everybody who is logged in. -/
def updateUser : Route :=
  .of "/users/:id/:part?" ["PUT", "PATCH"] ["auth:api"] (.controller "users" "update") 2

/-- An annotation with a response for strangers and a parameter of the path. -/
def updateBlock : CommentBlock :=
  ⟨"update", ["@summary Change a user", "@responseBody 401 - Strangers are refused",
    "@paramQuery quick - No mail is sent", "@paramPath id - The number"]⟩

theorem authored_parts_kept_update_user :
    documents .default updateUser = true ∧
      .put ∈ documentedMethods .default updateUser.methods ∧
      ∃ operation, (empty.addRoute .default updateUser (some (.ofLines .initial .default
          updateBlock.action updateBlock.lines))).operation? updateUser.path Method.put.key =
            some operation ∧
        operation.responses.keys = ["401", "204", "403"] ∧
        operation.parameters.map (·.name) = ["id", "part", "quick"] ∧
        operation.secured = true := by
  have shown : documents .default updateUser = true := by decide +kernel
  have documented : Method.put ∈ documentedMethods .default updateUser.methods := by
    decide +kernel
  rcases authored_parts_kept_and_completed .initial .default .default empty (some updateBlock)
    updateUser .put shown documented with ⟨operation, found, completes⟩
  have secured : operation.secured = true :=
    completes.secured.mpr ⟨"auth:api", by decide +kernel, "auth", by decide, Or.inr ⟨"api", rfl⟩⟩
  refine ⟨shown, documented, operation, found, ?_, ?_, secured⟩
  · rw [Keyed.keys, completes.responses, secured]
    decide +kernel
  · rw [completes.names]
    decide +kernel

end Outline
end Routebook
