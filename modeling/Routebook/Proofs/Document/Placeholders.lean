import Routebook.Proofs.Document.Outline
import Routebook.Proofs.Text.Pieces

namespace Routebook

/-!
# Placeholders of a path

A segment of a pattern that begins with a colon becomes a placeholder of the path, and the route
declares a parameter of the path for it.  The parameters of an annotation are laid over those of
the route by their names alone, wherever a request carries them.  So an annotated parameter of the
query takes the place of the parameter of the path with its name, and the placeholder is then
without one.

`Outline.all_ofRoutes` carries a rule from the operations of single routes to an outline.  The
rest looks at one operation: what a placeholder leaves in the path, and what is found under its
name when both kinds of parameters have been written.
-/

/-! ## Segments -/

namespace Route

/-- The path and the parameters of the route are those of its pattern. -/
structure FollowsPattern (route : Route) : Prop where
  path : route.path = String.ofList (patternPath route.pattern.toList)
  parameters : route.parameters = patternParameters route.pattern.toList

theorem followsPattern_of (pattern : String) (methods middleware : List String)
    (handler : Handler) (tagIndex : Nat) :
    (Route.of pattern methods middleware handler tagIndex).FollowsPattern :=
  ⟨rfl, rfl⟩

/-- The segment holds the place of the parameter with this name.  A question mark at its end
belongs to the name only if another one follows. -/
inductive Placeholder (name : String) : List Char → Prop where
  | required (plain : name.toList.getLast? ≠ some '?') : Placeholder name (':' :: name.toList)
  | optional : Placeholder name (':' :: (name.toList ++ ['?']))

variable {pattern segment : List Char} {name : String}

/-- Every segment with a colon at its start is a placeholder. -/
theorem exists_placeholder (text : List Char) : ∃ name, Placeholder name (':' :: text) := by
  rcases List.eq_nil_or_concat text with rfl | ⟨front, last, rfl⟩
  · exact ⟨"", .required nofun⟩
  · rw [List.concat_eq_append]
    by_cases mark : last = '?'
    · subst mark
      have segment : Placeholder (String.ofList front) _ := .optional
      rw [String.toList_ofList] at segment
      exact ⟨String.ofList front, segment⟩
    · have plain : (front ++ [last]).getLast? ≠ some '?' := by
        rw [List.getLast?_concat]
        exact fun same => mark (Option.some.inj same)
      have segment : Placeholder (String.ofList (front ++ [last])) _ :=
        .required (by rw [String.toList_ofList]; exact plain)
      rw [String.toList_ofList] at segment
      exact ⟨String.ofList (front ++ [last]), segment⟩

theorem Placeholder.segmentParameter? (placeholder : Placeholder name segment) :
    ∃ required, Route.segmentParameter? segment = some (.ofPath name required) := by
  cases placeholder with
  | required plain =>
    have kept : Text.stripEnd? ['?'] name.toList = none := by
      apply Option.eq_none_iff_forall_ne_some.mpr
      intro front stripped
      apply plain
      rw [Text.stripEnd?_eq_some_iff.mp stripped, List.getLast?_concat]
    refine ⟨true, ?_⟩
    rw [Route.segmentParameter?, kept]
    dsimp only
    rw [String.ofList_toList]
  | optional =>
    have stripped : Text.stripEnd? ['?'] (name.toList ++ ['?']) = some name.toList :=
      Text.stripEnd?_eq_some_iff.mpr rfl
    refine ⟨false, ?_⟩
    rw [Route.segmentParameter?, stripped]
    dsimp only
    rw [String.ofList_toList]

/-- A placeholder is written in braces. -/
theorem Placeholder.segmentPath (placeholder : Placeholder name segment) :
    Route.segmentPath segment = '{' :: (name.toList ++ ['}']) := by
  rcases placeholder.segmentParameter? with ⟨required, declared⟩
  rw [Route.segmentPath, declared]
  rfl

theorem segmentPath_of_head?_ne (plain : segment.head? ≠ some ':') :
    segmentPath segment = segment := by
  have none : segmentParameter? segment = none := by
    unfold segmentParameter?
    split
    next => exact absurd rfl plain
    next => rfl
  rw [segmentPath, none]

/-- What a segment becomes is still one segment. -/
theorem slash_not_mem_segmentPath (single : '/' ∉ segment) : '/' ∉ segmentPath segment := by
  by_cases colon : segment.head? = some ':'
  · rcases List.head?_eq_some_iff.mp colon with ⟨text, rfl⟩
    rcases exists_placeholder text with ⟨name, placeholder⟩
    have inner : '/' ∉ name.toList := by
      intro member
      apply single
      cases placeholder with
      | required => exact List.mem_cons_of_mem _ member
      | optional => exact List.mem_cons_of_mem _ (List.mem_append_left _ member)
    rw [placeholder.segmentPath]
    simp [inner]
  · rwa [segmentPath_of_head?_ne colon]

/-- The segments of a path are what the segments of its pattern become. -/
theorem segments_joinWith_segmentPath (pattern : List Char) :
    segments (Text.joinWith ['/'] ((segments pattern).map segmentPath)) =
      (segments pattern).map segmentPath := by
  refine Text.piecesAt_joinWith ?_ (List.forall_mem_map.mpr fun piece inside => ?_)
  · exact fun none => Text.piecesAt_ne_nil '/' pattern (List.map_eq_nil_iff.mp none)
  · exact slash_not_mem_segmentPath (Text.not_mem_of_mem_piecesAt inside)

/-- A placeholder of the pattern stands in braces at the same place of the path. -/
theorem Placeholder.segments_patternPath (placeholder : Placeholder name segment) {index : Nat}
    (found : (segments pattern)[index]? = some segment) :
    (segments (patternPath pattern))[index]? = some ('{' :: (name.toList ++ ['}'])) := by
  have written :
      (segments (Text.joinWith ['/'] ((segments pattern).map Route.segmentPath)))[index]? =
      some ('{' :: (name.toList ++ ['}'])) := by
    rw [segments_joinWith_segmentPath, List.getElem?_map, found, Option.map_some,
      placeholder.segmentPath]
  rw [patternPath]
  split
  next empty =>
    -- An empty path has an empty segment only, and a placeholder is not empty.
    rw [List.isEmpty_iff.mp empty] at written
    have member := List.mem_of_getElem? written
    exact absurd (List.mem_singleton.mp member) (List.cons_ne_nil _ _)
  next => exact written

end Route

/-! ## Parameters -/

namespace Operation

variable {route : Route} {segment : List Char} {name : String}

/-- Under the name of a placeholder stands the annotated parameter, and without one a parameter of
the path. -/
theorem exists_mem_mergeParameters (follows : route.FollowsPattern)
    (member : segment ∈ Route.segments route.pattern.toList)
    (placeholder : Route.Placeholder name segment) (notes : Option Notes) :
    ∃ parameter ∈ (mergeParameters route notes).values,
      notes.bind (·.parameters.get? name) = some parameter ∨
        notes.bind (·.parameters.get? name) = none ∧ parameter.name = name ∧
          parameter.location = .path := by
  rcases placeholder.segmentParameter? with ⟨required, declared⟩
  have listed : Parameter.ofPath name required ∈ route.parameters := by
    rw [follows.parameters]
    exact List.mem_filterMap.mpr ⟨segment, member, declared⟩
  have keyed :
      name ∈ entryKeys (route.parameters.map fun parameter => (parameter.name, parameter)) :=
    List.mem_map.mpr ⟨_, List.mem_map_of_mem listed, rfl⟩
  rcases Keyed.exists_get?_ofList keyed with ⟨own, entry, found⟩
  have path : own.name = name ∧ own.location = .path := by
    rcases List.mem_map.mp entry with ⟨parameter, among, same⟩
    rcases Prod.mk.inj same with ⟨named, rfl⟩
    rw [follows.parameters] at among
    rcases List.mem_filterMap.mp among with ⟨other, _, read⟩
    refine ⟨named, ?_⟩
    unfold Route.segmentParameter? at read
    split at read
    · split at read <;> exact Option.some.inj read ▸ rfl
    · cases read
  cases annotated : notes.bind (·.parameters.get? name) with
  | none =>
    refine ⟨own, @Keyed.mem_values_of_get? _ _ name _ ?_, Or.inr ⟨rfl, path⟩⟩
    cases notes with
    | none => exact found
    | some notes =>
      rw [mergeParameters, Option.map_some, Option.getD_some,
        Keyed.get?_insertAll _ notes.parameters.distinct]
      exact (congrArg (Option.or · _) annotated).trans found
  | some noted =>
    refine ⟨noted, @Keyed.mem_values_of_get? _ _ name _ ?_, Or.inl rfl⟩
    cases notes with
    | none => cases annotated
    | some notes =>
      rw [mergeParameters, Option.map_some, Option.getD_some,
        Keyed.get?_insertAll _ notes.parameters.distinct]
      exact congrArg (Option.or · _) annotated

end Operation

namespace Notes

/-- The parameters stand under their names. -/
def NamesParameters (notes : Notes) : Prop :=
  notes.parameters.All fun name parameter => parameter.name = name

theorem NamesParameters.addParameters {notes : Notes} (named : notes.NamesParameters)
    (parameters : List Parameter) : (notes.addParameters parameters).NamesParameters := by
  apply Keyed.All.insertAll named
  intro entry member
  rcases List.mem_map.mp member with ⟨parameter, _, rfl⟩
  rfl

theorem NamesParameters.apply {notes : Notes} (named : notes.NamesParameters)
    (expansion : Expansion) (options : Options) (directive : Directive) :
    (notes.apply expansion options directive).NamesParameters := by
  cases directive with
  | parameter location name description tokens => exact named.addParameters _
  | parameterGroups names => exact named.addParameters _
  | summary | description | operationId | tag | responseBody | responseHeader | requestBody
  | requestForm => exact named

theorem namesParameters_ofLines (catalog : Catalog) (options : Options) (action : String)
    (lines : List String) : (ofLines catalog options action lines).NamesParameters := by
  unfold ofLines
  generalize lines.filterMap (fun line => Directive.ofLine? line.toList) = directives
  have start : (blank action).NamesParameters := Keyed.all_empty _
  generalize blank action = notes at start
  induction directives generalizing notes with
  | nil => exact start
  | cons first rest inductionHypothesis =>
    rw [List.foldl_cons]
    apply inductionHypothesis
    exact start.apply _ options first

end Notes

/-! ## Operations -/

namespace Outline

variable {options : Options} {outline : Outline} {rule : String → String → Operation → Prop}

/-- Every operation obeys the rule, which may look at its path and at the key of its method. -/
def All (rule : String → String → Operation → Prop) (outline : Outline) : Prop :=
  outline.paths.All fun path item => item.All (rule path)

theorem All.addOperation (kept : outline.All rule) {path : String} {method : Method}
    {operation : Operation} (obeys : rule path method.key operation) :
    (outline.addOperation path method operation).All rule := by
  have item : ((outline.paths.get? path).getD .empty).All (rule path) := by
    cases found : outline.paths.get? path with
    | none => exact Keyed.all_empty _
    | some item => exact Keyed.All.of_get? kept found
  exact Keyed.All.insert kept (item.insert obeys)

theorem All.addRoute (kept : outline.All rule) {route : Route} {notes : Option Notes}
    (obeys : ∀ method : Method, rule route.path method.key (.of options route method notes)) :
    (outline.addRoute options route notes).All rule := by
  unfold Outline.addRoute
  split
  · generalize documentedMethods options route.methods = methods
    induction methods generalizing outline with
    | nil => exact kept
    | cons first rest inductionHypothesis =>
      rw [List.foldl_cons]
      exact inductionHypothesis (kept.addOperation (obeys first))
  · exact kept

/-- What holds of the operations of every single route holds of all operations. -/
theorem all_ofRoutes {routes : List (Route × Option Notes)}
    (obeys : ∀ entry ∈ routes, ∀ method : Method,
      rule entry.1.path method.key (.of options entry.1 method entry.2)) :
    (ofRoutes options routes).All rule := by
  unfold ofRoutes
  have start : empty.All rule := Keyed.all_empty _
  generalize empty = outline at start
  induction routes generalizing outline with
  | nil => exact start
  | cons first rest inductionHypothesis =>
    rw [List.foldl_cons]
    apply inductionHypothesis
    · exact fun entry member => obeys entry (List.mem_cons_of_mem first member)
    · exact start.addRoute (obeys first List.mem_cons_self)

/-- Every operation of a document is that of a method of one of its routes, and each placeholder
of the pattern of this route stands in braces at its place of the path.  Under its name the
operation has a parameter of the path, unless the annotation of the route has a parameter of this
name: then it is the annotated one, in the path or elsewhere.  An annotation that was read from
lines has every parameter under its own name. -/
theorem placeholders_declared_or_annotated {routes : List (Route × Option Notes)}
    (follow : ∀ entry ∈ routes, entry.1.FollowsPattern) (catalog : Catalog) :
    ((Document.of options catalog (ofRoutes options routes)).outline.All
      fun path key operation => ∃ entry ∈ routes, ∃ method : Method,
        path = entry.1.path ∧ key = method.key ∧ operation = .of options entry.1 method entry.2 ∧
        ∀ (index : Nat) segment name,
          (Route.segments entry.1.pattern.toList)[index]? = some segment →
          Route.Placeholder name segment →
            (Route.segments path.toList)[index]? = some ('{' :: (name.toList ++ ['}'])) ∧
            ∃ parameter ∈ operation.parameters,
              entry.2.bind (·.parameters.get? name) = some parameter ∨
                entry.2.bind (·.parameters.get? name) = none ∧ parameter.name = name ∧
                  parameter.location = .path) ∧
    ∀ action lines name parameter,
      (Notes.ofLines catalog options action lines).parameters.get? name = some parameter →
        parameter.name = name := by
  constructor
  · apply all_ofRoutes
    intro entry member method
    have follows := follow entry member
    refine ⟨entry, member, method, rfl, rfl, rfl, ?_⟩
    intro index segment name found placeholder
    constructor
    · rw [follows.path, String.toList_ofList]
      exact placeholder.segments_patternPath found
    · exact Operation.exists_mem_mergeParameters follows (List.mem_of_getElem? found) placeholder
        entry.2
  · intro action lines name parameter found
    have named := Notes.namesParameters_ofLines catalog options action lines
    exact named.of_get? found

/-! ## A user by number -/

/-- The request for a user, with the number of the user and perhaps a part of the answer. -/
def showUser : Route :=
  .of "/users/:id/:part?" ["GET"] [] (.controller "users" "show") 2

/-- An annotation that puts the number of the user into the query. -/
def userNotes : Notes :=
  .ofLines .initial .default "show" ["@summary One user", "@paramQuery id - The number"]

/-- The path has a place for the number of the user, and no parameter of the path is declared for
it. -/
theorem user_number_declared_in_query :
    showUser.FollowsPattern ∧
      (Route.segments showUser.pattern.toList)[2]? = some ":id".toList ∧
      Route.Placeholder "id" ":id".toList ∧
      ∃ operation, (ofRoutes .default [(showUser, some userNotes)]).operation?
          "/users/\x7bid\x7d/\x7bpart\x7d" Method.get.key = some operation ∧
        ¬ ∃ parameter ∈ operation.parameters, parameter.name = "id" ∧
          parameter.location = .path := by
  refine ⟨Route.followsPattern_of _ _ _ _ _, by decide +kernel, .required (by decide), ?_⟩
  have shown : ((ofRoutes .default [(showUser, some userNotes)]).operation?
      "/users/\x7bid\x7d/\x7bpart\x7d" Method.get.key).map (fun operation =>
        operation.parameters.map fun parameter => (parameter.name, parameter.location)) =
      some [("id", .query), ("part", .path)] := by
    decide +kernel
  rcases Option.map_eq_some_iff.mp shown with ⟨operation, found, parameters⟩
  refine ⟨operation, found, ?_⟩
  rintro ⟨parameter, member, named, located⟩
  have listed := List.mem_map_of_mem (f := fun parameter : Parameter =>
    (parameter.name, parameter.location)) member
  rw [parameters, named, located] at listed
  exact absurd listed (by decide)

theorem placeholders_declared_users :
    showUser.FollowsPattern ∧
      (ofRoutes .default [(showUser, some userNotes)]).All fun path _ operation =>
        (Route.segments path.toList)[3]? = some "\x7bpart\x7d".toList ∧
          ∃ parameter ∈ operation.parameters, parameter.name = "part" ∧
            parameter.location = .path := by
  have follows : showUser.FollowsPattern := Route.followsPattern_of _ _ _ _ _
  refine ⟨follows, ?_⟩
  have declared := @placeholders_declared_or_annotated .default [(showUser, some userNotes)]
    (fun entry member => List.mem_singleton.mp member ▸ follows) .initial
  intro entry member operation inside
  rcases declared.1 entry member operation inside with ⟨source, listed, method, _, _, _, places⟩
  rcases List.mem_singleton.mp listed with rfl
  have found : (Route.segments showUser.pattern.toList)[3]? = some ":part?".toList := by
    decide +kernel
  have unannotated : userNotes.parameters.get? "part" = none := by
    decide +kernel
  rcases places 3 _ "part" found .optional with ⟨braced, parameter, known, noted | ⟨_, own⟩⟩
  · exact absurd (unannotated.symm.trans noted) nofun
  · exact ⟨braced, parameter, known, own⟩

end Outline
end Routebook
