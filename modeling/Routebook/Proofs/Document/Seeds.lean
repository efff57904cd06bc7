import Routebook.Document
import Routebook.Proofs.Expansion.Seeds
import Routebook.Proofs.Notes.Session

namespace Routebook

/-!
# What the seed shows in a document

A seed reaches the document through the catalog only.  Its samples are written into the schema
objects of the components, and they are copied into the examples of bodies.  Everything else of
a document is authored or comes from the routes.  Two runs that differ in their seed therefore
go through the same routes, read the same controllers and fail with the same error, and where
they end with documents these are alike.

The proof follows the assembly: the annotations of a controller are alike in the two runs, so
are the caches that hold them, the operations that are made of them, and the outlines that list
the operations.  `Assembly.Alike` is what one route keeps.
-/

/-! ## Schema objects -/

namespace SchemaObject

/-- Schema objects that are written alike. -/
def WrittenAlike (first second : SchemaObject) : Prop :=
  first.toJson.Alike second.toJson

/-- The same schema object, up to its sample and to what its items and properties hold. -/
inductive Alike (schema : SchemaObject) : SchemaObject → Prop
  | of {sample : Option Json} {items : Option SchemaObject}
    {properties : Option (List (String × SchemaObject))}
    (samples : Option.Rel Json.Alike schema.sample sample)
    (itemsAlike : Option.Rel WrittenAlike schema.items items)
    (propertiesAlike : Option.Rel (EntriesRel WrittenAlike) schema.properties properties) :
    schema.Alike { schema with sample := sample, items := items, properties := properties }

theorem alike_fieldsToJson {properties properties' : List (String × SchemaObject)}
    (alike : EntriesRel WrittenAlike properties properties') :
    Json.FieldsAlike (fieldsToJson properties) (fieldsToJson properties') := by
  induction alike with
  | nil => exact .nil
  | cons head _ inductionHypothesis =>
    rcases head with ⟨name, schema⟩
    exact .cons (.of name schema) inductionHypothesis

theorem alike_itemsField {items items' : Option SchemaObject}
    (alike : Option.Rel WrittenAlike items items') :
    Json.FieldsAlike (itemsField items) (itemsField items') := by
  cases alike with
  | none => exact .nil
  | some items => exact Json.fieldsAlike_singleton "items" items

theorem alike_propertiesField {properties properties' : Option (List (String × SchemaObject))}
    (alike : Option.Rel (EntriesRel WrittenAlike) properties properties') :
    Json.FieldsAlike (propertiesField properties) (propertiesField properties') := by
  cases alike with
  | none => exact .nil
  | some properties =>
    exact Json.fieldsAlike_singleton "properties" (.object (alike_fieldsToJson properties))

variable {first second : SchemaObject}

theorem Alike.written (alike : first.Alike second) : first.WrittenAlike second := by
  rcases alike with ⟨samples, items, properties⟩
  have sampleWritten := Json.fieldsAlike_optionalValue "example" samples
  rcases first with ⟨_, _, _, _, _, _, _, _, _⟩
  unfold WrittenAlike
  rw [toJson, toJson]
  exact .object ((((Json.fieldsAlike_refl _).append sampleWritten).append
    (alike_itemsField items)).append (alike_propertiesField properties))

theorem Alike.refl (schema : SchemaObject) : schema.Alike schema := by
  cases schema
  exact .of (optionRel_refl .same _) (optionRel_refl (fun _ => .same _) _)
    (optionRel_refl (EntriesRel.refl fun _ => .same _) _)

theorem Alike.reference_eq (alike : first.Alike second) : first.reference = second.reference := by
  rcases alike with ⟨_, _, _⟩
  rfl

theorem Alike.setNullable (alike : first.Alike second) (nullable : Option Bool) :
    Alike { first with nullable := nullable } { second with nullable := nullable } := by
  rcases alike with ⟨samples, items, properties⟩
  exact @Alike.of { first with nullable := nullable } _ _ _ samples items properties

theorem Alike.ofItems (alike : first.Alike second) : (ofItems first).Alike (ofItems second) :=
  @Alike.of (SchemaObject.ofItems first) _ _ _ .none (.some alike.written) .none

/-- A sample is left out in both runs or in neither, since no drawn number is null. -/
theorem alike_ofElement {property property' : Property} (alike : property.Alike property') :
    (ofElement property).Alike (ofElement property') := by
  rcases alike with ⟨sampled⟩
  unfold ofElement
  dsimp only
  cases property.type with
  | reference name => exact .refl _
  | primitive name =>
    dsimp only
    rw [← sampled.json.isNull_eq]
    split
    · exact .refl _
    · exact @Alike.of { ofType name with
        format := property.format, choices := property.choices, sample := some property.sample }
        _ _ _ (.some sampled.json) .none .none

theorem alike_ofProperty {property property' : Property} (alike : property.Alike property') :
    (ofProperty property).Alike (ofProperty property') := by
  have element := alike_ofElement alike
  have isArray : property'.isArray = property.isArray := by
    rcases alike with ⟨_⟩
    rfl
  have nullable : property'.nullable = property.nullable := by
    rcases alike with ⟨_⟩
    rfl
  have shape : Alike (if property.isArray then SchemaObject.ofItems (ofElement property)
      else ofElement property) (if property.isArray then SchemaObject.ofItems (ofElement property')
      else ofElement property') := by
    split
    · exact element.ofItems
    · exact element
  unfold ofProperty
  dsimp only
  rw [isArray, nullable]
  generalize (if property.isArray then SchemaObject.ofItems (ofElement property)
    else ofElement property) = whole at shape ⊢
  generalize (if property.isArray then SchemaObject.ofItems (ofElement property')
    else ofElement property') = whole' at shape ⊢
  have nulled := shape.setNullable (some true)
  rw [← shape.reference_eq] at nulled ⊢
  split
  · exact nulled
  · exact shape

theorem alike_ofSchema {schema schema' : Schema} (alike : schema.Alike schema') :
    (ofSchema schema).Alike (ofSchema schema') := by
  rcases alike with ⟨properties⟩
  exact @Alike.of (ofSchema schema) _ _ _ .none .none
    (.some (properties.map fun _ _ alike => (alike_ofProperty alike).written))

end SchemaObject

theorem Catalog.Alike.components {first second : Catalog} (alike : first.Alike second) :
    EntriesRel SchemaObject.WrittenAlike first.components second.components := by
  refine List.rel_map ?_ alike
  intro schema schema' alike
  have written := (SchemaObject.alike_ofSchema alike).written
  rcases alike with ⟨_⟩
  exact .of schema.name written

/-! ## Annotations -/

/-- The same body, up to its example. -/
inductive Body.Alike (body : Body) : Body → Prop
  | of {sample : Option Json} (samples : Option.Rel Json.Alike body.sample sample) :
    body.Alike { body with sample := sample }

/-- The same response, up to the example of its body. -/
inductive Response.Alike (response : Response) : Response → Prop
  | of {body : Option Body} (bodies : Option.Rel Body.Alike response.body body) :
    response.Alike { response with body := body }

/-- The same annotation, up to the examples of bodies. -/
inductive Notes.Alike (notes : Notes) : Notes → Prop
  | of {responses : Keyed Response} {body : Option Body}
    (responsesAlike : notes.responses.Rel Response.Alike responses)
    (bodies : Option.Rel Body.Alike notes.requestBody body) :
    notes.Alike { notes with responses := responses, requestBody := body }

theorem Body.Alike.refl (body : Body) : body.Alike body :=
  .of (optionRel_refl Json.Alike.same body.sample)

theorem Response.Alike.refl (response : Response) : response.Alike response :=
  .of (optionRel_refl Body.Alike.refl response.body)

theorem Body.Alike.content {body body' : Body} (alike : body.Alike body') :
    body.content.Alike body'.content := by
  rcases alike with ⟨samples⟩
  have sampleWritten := Json.fieldsAlike_optionalValue "example" samples
  exact .object (Json.fieldsAlike_singleton body.mediaType
    (.object (.cons (.of "schema" (.same _)) sampleWritten)))

theorem Body.Alike.toJson {body body' : Body} (alike : body.Alike body') :
    body.toJson.Alike body'.toJson :=
  .object (Json.fieldsAlike_singleton "content" alike.content)

theorem Response.Alike.toJson {response response' : Response} (alike : response.Alike response') :
    response.toJson.Alike response'.toJson := by
  rcases alike with ⟨bodies⟩
  have content := Json.fieldsAlike_optionalField "content" bodies fun _ _ => Body.Alike.content
  exact .object (.cons (.of "description" (.same _)) ((Json.fieldsAlike_refl _).append content))

namespace Notes

variable {first second : Catalog} {maxDepth : Nat} {notes notes' : Notes}

/-- An example in a body is expanded in both runs, and malformed in both or in neither. -/
theorem alike_bodyOf? (alike : first.Alike second) (payload : Payload) :
    Option.Rel Body.Alike (bodyOf? ⟨first, maxDepth⟩ payload)
      (bodyOf? ⟨second, maxDepth⟩ payload) := by
  cases payload with
  | reference reference filter =>
    exact .some (.of (.some (Expansion.alike_expandReference alike filter reference.toList)))
  | json raw =>
    unfold bodyOf?
    dsimp only
    cases Json.read? raw.toList with
    | none => exact .none
    | some value => exact .some (.of (.some (Expansion.alike_expandInline alike value)))
  | none => exact .none

theorem Alike.response (alike : notes.Alike notes') (status : String) :
    (notes.response status).Alike (notes'.response status) := by
  rcases alike with ⟨responses, _⟩
  exact optionRel_getD (responses.get? status) (.refl _)

theorem Alike.setResponse (alike : notes.Alike notes') (status : String)
    {response response' : Response} (responseAlike : response.Alike response') :
    (notes.setResponse status response).Alike (notes'.setResponse status response') := by
  rcases alike with ⟨responses, bodies⟩
  exact .of (responses.insert status responseAlike) bodies

theorem Alike.apply (alike : notes.Alike notes') (catalogs : first.Alike second) (options : Options)
    (directive : Directive) :
    (apply ⟨first, maxDepth⟩ options notes directive).Alike
      (apply ⟨second, maxDepth⟩ options notes' directive) := by
  cases directive with
  | responseBody status remark payload =>
    have known := alike.response status
    unfold Notes.apply addResponseBody
    dsimp only
    generalize notes.response status = response at known ⊢
    generalize notes'.response status = response' at known ⊢
    rcases known with ⟨bodies⟩
    refine alike.setResponse status (@Response.Alike.of ⟨_, _, _⟩ _ ?_)
    exact optionRel_or (alike_bodyOf? catalogs payload) bodies
  | responseHeader status header =>
    have known := alike.response status
    unfold Notes.apply addHeaders
    dsimp only
    generalize notes.response status = response at known ⊢
    generalize notes'.response status = response' at known ⊢
    rcases known with ⟨bodies⟩
    exact alike.setResponse status (@Response.Alike.of ⟨_, _, _⟩ _ bodies)
  | requestBody payload =>
    rcases alike with ⟨responses, bodies⟩
    exact @Alike.of { notes with requestBody := _ } _ _ responses
      (optionRel_or (alike_bodyOf? catalogs payload) bodies)
  | requestForm payload =>
    rcases alike with ⟨responses, bodies⟩
    exact @Alike.of { notes with requestBody := _ } _ _ responses
      (optionRel_or (optionRel_refl Body.Alike.refl _) bodies)
  | _ =>
    rcases alike with ⟨responses, bodies⟩
    exact @Alike.of ⟨_, _, _, _, _, _, _, _⟩ _ _ responses bodies

theorem Alike.refl (notes : Notes) : notes.Alike notes :=
  .of (Keyed.Rel.refl Response.Alike.refl notes.responses)
    (optionRel_refl Body.Alike.refl notes.requestBody)

theorem alike_ofLines (catalogs : first.Alike second) (options : Options) (action : String)
    (lines : List String) :
    (ofLines first options action lines).Alike (ofLines second options action lines) := by
  apply List.foldl_rel (r := Alike)
  · exact .refl _
  · exact fun directive _ _ _ alike => alike.apply catalogs options directive

end Notes

variable {first second : Catalog}

theorem alike_notesOf (catalogs : first.Alike second) (options : Options) (source : String) :
    (notesOf first options source).Rel Notes.Alike (notesOf second options source) := by
  apply List.foldl_rel (r := Keyed.Rel Notes.Alike)
  · exact Keyed.rel_empty
  · intro block _ known known' alike
    rw [← alike.contains_eq]
    split
    · exact alike
    · exact alike.insert block.action (Notes.alike_ofLines catalogs options _ _)

/-! ## Operations -/

/-- The same operation, up to the examples of its bodies. -/
inductive Operation.Alike (operation : Operation) : Operation → Prop
  | of {responses : Keyed Response} {body : Option Body}
    (responsesAlike : operation.responses.Rel Response.Alike responses)
    (bodies : Option.Rel Body.Alike operation.requestBody body) :
    operation.Alike { operation with responses := responses, requestBody := body }

namespace Operation

theorem alike_mergeResponses (method : Method) (secured : Bool) {notes notes' : Option Notes}
    (alike : Option.Rel Notes.Alike notes notes') :
    (mergeResponses method secured notes).Rel Response.Alike
      (mergeResponses method secured notes') := by
  have authored : Keyed.Rel Response.Alike ((notes.map (·.responses)).getD .empty)
      ((notes'.map (·.responses)).getD .empty) := by
    cases alike with
    | none => exact Keyed.rel_empty
    | some alike =>
      rcases alike with ⟨responses, _⟩
      exact responses
  apply List.foldl_rel (r := Keyed.Rel Response.Alike)
  · exact authored
  · intro status _ responses responses' alike
    unfold addMissing
    rw [← alike.contains_eq]
    split
    · exact alike
    · exact alike.insert status (.refl _)

theorem alike_of (options : Options) (route : Route) (method : Method)
    {notes notes' : Option Notes} (alike : Option.Rel Notes.Alike notes notes') :
    (of options route method notes).Alike (of options route method notes') := by
  have responses := alike_mergeResponses method (route.middleware.any options.isSecurity) alike
  have bodies : Option.Rel Body.Alike (notes.bind (·.requestBody))
      (notes'.bind (·.requestBody)) := by
    cases alike with
    | none => exact .none
    | some alike =>
      rcases alike with ⟨_, bodies⟩
      exact bodies
  have expected := optionRel_or bodies (optionRel_refl Body.Alike.refl
    (if hasBody method then some .unknown else none))
  cases alike with
  | none => exact .of responses expected
  | some alike =>
    rcases alike with ⟨_, _⟩
    exact .of responses expected

theorem Alike.toJson {operation operation' : Operation} (alike : operation.Alike operation') :
    operation.toJson.Alike operation'.toJson := by
  rcases alike with ⟨responses, bodies⟩
  have body := Json.fieldsAlike_optionalField "requestBody" bodies fun _ _ => Body.Alike.toJson
  have byStatus := responses.map fun _ _ alike => alike.toJson
  have shown := Json.fieldsAlike_singleton "responses" (.object byStatus)
  exact .object ((((Json.fieldsAlike_refl _).append body).append shown).append
    (Json.fieldsAlike_refl _))

end Operation

/-! ## Outlines -/

namespace Outline

/-- The same paths, methods and tags, with operations that are alike. -/
structure Alike (first second : Outline) : Prop where
  paths : first.paths.Rel (Keyed.Rel Operation.Alike) second.paths
  tags : first.tags = second.tags

variable {outline outline' : Outline}

theorem Alike.addOperation (alike : outline.Alike outline') (path : String) (method : Method)
    {operation operation' : Operation} (operations : operation.Alike operation') :
    (outline.addOperation path method operation).Alike
      (outline'.addOperation path method operation') where
  paths := by
    have item := optionRel_getD (alike.paths.get? path) Keyed.rel_empty
    exact alike.paths.insert path (item.insert method.key operations)
  tags := by
    rcases operations with ⟨_, _⟩
    exact congrArg (operation.tag.toList.foldl addTag) alike.tags

theorem Alike.addRoute (alike : outline.Alike outline') (options : Options) (route : Route)
    {notes notes' : Option Notes} (notesAlike : Option.Rel Notes.Alike notes notes') :
    (outline.addRoute options route notes).Alike (outline'.addRoute options route notes') := by
  unfold Outline.addRoute
  split
  · apply List.foldl_rel (r := Alike)
    · exact alike
    · exact fun method _ _ _ alike =>
        alike.addOperation route.path method (Operation.alike_of options route method notesAlike)
  · exact alike

theorem Alike.pathsToJson (alike : outline.Alike outline') :
    outline.pathsToJson.Alike outline'.pathsToJson :=
  .object (alike.paths.map fun _ _ items => .object (items.map fun _ _ alike => alike.toJson))

theorem Alike.tagsToJson (alike : outline.Alike outline') :
    outline.tagsToJson.Alike outline'.tagsToJson := by
  unfold Outline.tagsToJson
  rw [alike.tags]
  exact .same _

end Outline

theorem Document.alike_toJson (options : Options) (catalogs : first.Alike second)
    {outline outline' : Outline} (outlines : outline.Alike outline') :
    (Document.of options first outline).toJson.Alike
      (Document.of options second outline').toJson := by
  have schemas := SchemaObject.alike_fieldsToJson catalogs.components
  refine .object (.cons (.of "openapi" (.same _)) (.cons (.of "info" (.same _))
    (.cons (.of "components" (.object ?_)) (.cons (.of "paths" outlines.pathsToJson)
      (.cons (.of "tags" outlines.tagsToJson) .nil)))))
  exact .cons (.of "schemas" (.object schemas)) (Json.fieldsAlike_refl _)

/-! ## Two assemblies -/

/-- Two runs end with the same error, or with results that are related. -/
inductive ExceptRel {ε α β : Type} (related : α → β → Prop) : Except ε α → Except ε β → Prop
  | error (error : ε) : ExceptRel related (.error error) (.error error)
  | ok {result : α} {result' : β} (results : related result result') :
    ExceptRel related (.ok result) (.ok result')

variable {ε σ : Type}

/-- A controller is in both caches or in neither, so that both runs read it or neither does. -/
theorem NotesCache.alike_lookup (read : String → σ → Except ε String × σ)
    (catalogs : first.Alike second) (options : Options) {cache cache' : NotesCache}
    (caches : cache.Rel (Keyed.Rel Notes.Alike) cache') (controller action : String) (reader : σ) :
    let answer := cache.lookup read first options controller action reader
    let answer' := cache'.lookup read second options controller action reader
    ExceptRel (Option.Rel Notes.Alike) answer.1 answer'.1 ∧
      answer.2.1.Rel (Keyed.Rel Notes.Alike) answer'.2.1 ∧ answer.2.2 = answer'.2.2 := by
  have held := caches.get? controller
  unfold NotesCache.lookup
  generalize cache.get? controller = known at held ⊢
  generalize cache'.get? controller = known' at held ⊢
  cases held with
  | some known => exact ⟨.ok (known.get? action), caches, rfl⟩
  | none =>
    dsimp only
    rcases read controller reader with ⟨error | text, behind⟩
    · exact ⟨.error error, caches, rfl⟩
    · have known := alike_notesOf catalogs options text
      exact ⟨.ok (known.get? action), caches.insert controller known, rfl⟩

namespace Assembly

/-- The outlines and the caches are alike, and the reader of controllers is in the same state. -/
structure Alike (first second : Assembly σ) : Prop where
  outline : first.outline.Alike second.outline
  cache : first.cache.Rel (Keyed.Rel Notes.Alike) second.cache
  reader : first.reader = second.reader

variable {assembly assembly' : Assembly σ}

/-- Both runs read the controller of a route or neither does, and either fails if the other
does. -/
theorem Alike.step (alike : assembly.Alike assembly') (read : String → σ → Except ε String × σ)
    (catalogs : first.Alike second) (options : Options) (route : Route) :
    (assembly.step read first options route).1 = (assembly'.step read second options route).1 ∧
      (assembly.step read first options route).2.Alike
        (assembly'.step read second options route).2 := by
  unfold Assembly.step
  split
  · cases route.handler with
    | closure name =>
      exact ⟨rfl, alike.outline.addRoute options route .none, alike.cache, alike.reader⟩
    | controller source action =>
      obtain ⟨answers, caches, readers⟩ := NotesCache.alike_lookup read catalogs options
        alike.cache source action assembly.reader
      rw [← alike.reader]
      dsimp only at answers caches readers ⊢
      generalize assembly.cache.lookup read first options source action assembly.reader = answer
        at answers caches readers ⊢
      generalize assembly'.cache.lookup read second options source action assembly.reader = answer'
        at answers caches readers ⊢
      rcases answer with ⟨result, cache, reader⟩
      rcases answer' with ⟨result', cache', reader'⟩
      dsimp only at answers caches readers ⊢
      cases answers with
      | error error => exact ⟨rfl, alike.outline, caches, readers⟩
      | ok notes => exact ⟨rfl, alike.outline.addRoute options route notes, caches, readers⟩
  · exact ⟨rfl, alike⟩

/-- The induction is on the routes.  Both runs stop at the same one. -/
theorem Alike.run (alike : assembly.Alike assembly') (read : String → σ → Except ε String × σ)
    (catalogs : first.Alike second) (options : Options) (routes : List Route) :
    (assembly.run read first options routes).1 = (assembly'.run read second options routes).1 ∧
      (assembly.run read first options routes).2.Alike
        (assembly'.run read second options routes).2 := by
  induction routes generalizing assembly assembly' with
  | nil => exact ⟨rfl, alike⟩
  | cons route rest inductionHypothesis =>
    obtain ⟨outcomes, next⟩ := alike.step read catalogs options route
    rw [Assembly.run, Assembly.run]
    generalize assembly.step read first options route = stepped at outcomes next ⊢
    generalize assembly'.step read second options route = stepped' at outcomes next ⊢
    rcases stepped with ⟨outcome, reached⟩
    rcases stepped' with ⟨outcome', reached'⟩
    dsimp only at outcomes next
    rw [← outcomes]
    cases outcome with
    | error error => exact ⟨rfl, next⟩
    | ok _ => exact inductionHypothesis next

end Assembly

/-- Two runs with catalogs that are alike leave the reader of controllers in the same state, and
end with the same error or with documents that are alike. -/
theorem alike_assemble (read : String → σ → Except ε String × σ) (catalogs : first.Alike second)
    (options : Options) (routes : List Route) (reader : σ) :
    (assemble read first options routes reader).2 = (assemble read second options routes reader).2 ∧
      ExceptRel (fun document document' => document.toJson.Alike document'.toJson)
        (assemble read first options routes reader).1
        (assemble read second options routes reader).1 := by
  have started : (Assembly.start reader).Alike (Assembly.start reader) :=
    ⟨⟨Keyed.rel_empty, rfl⟩, Keyed.rel_empty, rfl⟩
  obtain ⟨outcomes, behind⟩ := started.run read catalogs options routes
  unfold assemble
  generalize (Assembly.start reader).run read first options routes = ran at outcomes behind ⊢
  generalize (Assembly.start reader).run read second options routes = ran' at outcomes behind ⊢
  rcases ran with ⟨outcome, assembly⟩
  rcases ran' with ⟨outcome', assembly'⟩
  dsimp only at outcomes behind
  rw [← outcomes]
  cases outcome with
  | error error => exact ⟨behind.reader, .error error⟩
  | ok _ => exact ⟨behind.reader, .ok (Document.alike_toJson options catalogs behind.outline)⟩

/-! ## Seeds -/

namespace Options

/-- The options of a run with another seed. -/
def withSeed (options : Options) (seed : UInt64) : Options :=
  { options with exampleSeed := some seed }

end Options

section

variable (options : Options) (seed : UInt64)

theorem Notes.apply_withSeed (expansion : Expansion) :
    apply expansion (options.withSeed seed) = apply expansion options := by
  funext notes directive
  cases directive with
  | responseHeader status header => cases header <;> rfl
  | _ => rfl

theorem Notes.ofLines_withSeed (catalog : Catalog) :
    ofLines catalog (options.withSeed seed) = ofLines catalog options := by
  have expansion : expansionOf catalog (options.withSeed seed) = expansionOf catalog options := rfl
  funext action lines
  rw [ofLines, expansion, apply_withSeed, ofLines]

theorem notesOf_withSeed (catalog : Catalog) :
    notesOf catalog (options.withSeed seed) = notesOf catalog options := by
  funext source
  rw [notesOf, Notes.ofLines_withSeed, notesOf]

theorem NotesCache.lookup_withSeed (read : String → σ → Except ε String × σ) (catalog : Catalog)
    (cache : NotesCache) :
    cache.lookup read catalog (options.withSeed seed) = cache.lookup read catalog options := by
  funext controller action reader
  rw [lookup, notesOf_withSeed, lookup]

theorem Outline.addRoute_withSeed (outline : Outline) :
    outline.addRoute (options.withSeed seed) = outline.addRoute options := rfl

theorem Assembly.step_withSeed (read : String → σ → Except ε String × σ) (catalog : Catalog)
    (assembly : Assembly σ) :
    assembly.step read catalog (options.withSeed seed) = assembly.step read catalog options := by
  have documents : Outline.documents (options.withSeed seed) = Outline.documents options := rfl
  funext route
  rw [step, documents, NotesCache.lookup_withSeed, Outline.addRoute_withSeed, step]

theorem Assembly.run_withSeed (read : String → σ → Except ε String × σ) (catalog : Catalog)
    (assembly : Assembly σ) (routes : List Route) :
    assembly.run read catalog (options.withSeed seed) routes =
      assembly.run read catalog options routes := by
  induction routes generalizing assembly with
  | nil => rfl
  | cons route rest inductionHypothesis =>
    rw [run, run, step_withSeed]
    rcases assembly.step read catalog options route with ⟨error | _, next⟩
    · rfl
    · exact inductionHypothesis next

/-- Once there is a catalog, the seed of the options is not looked at any more. -/
theorem assemble_withSeed (read : String → σ → Except ε String × σ) (catalog : Catalog)
    (routes : List Route) (reader : σ) :
    assemble read catalog (options.withSeed seed) routes reader =
      assemble read catalog options routes reader := by
  rw [assemble, Assembly.run_withSeed, assemble]
  rfl

end

/-- The seed shows in drawn numbers only.  Catalogs of the same sources with two seeds have the
same schemas in the same order, of the same kinds, with the same keys and the same descriptors,
except that samples of numbers and integers may differ, and then both are drawn.  The two runs
that go on with them make the same readings, whose results are the same, and leave the reader in
the same state; they end with the same error or with documents that are equal position by
position, except where both hold an integer that may have been drawn. -/
theorem seed_shows_in_drawn_numbers_only (interfaces models : List Source) (options : Options)
    (routes : List Route) (read : String → σ → Except ε String × σ) (reader : σ)
    (firstSeed secondSeed : UInt64) :
    let catalog seed := Catalog.build interfaces models options.snakeCase (.ofSeed seed)
    let run seed := assemble read (catalog seed) (options.withSeed seed) routes reader
    let recorded seed :=
      assemble (recording read) (catalog seed) (options.withSeed seed) routes (reader, [])
    (catalog firstSeed).Alike (catalog secondSeed) ∧
    (recorded firstSeed).2 = (recorded secondSeed).2 ∧
    (run firstSeed).2 = (run secondSeed).2 ∧
    ExceptRel (fun document document' => document.toJson.Alike document'.toJson)
      (run firstSeed).1 (run secondSeed).1 := by
  intro catalog run recorded
  have catalogs : (catalog firstSeed).Alike (catalog secondSeed) :=
    Catalog.alike_build interfaces models options.snakeCase _ _
  dsimp only [run, recorded]
  rw [assemble_withSeed, assemble_withSeed, assemble_withSeed, assemble_withSeed]
  refine ⟨catalogs, ?_, ?_⟩
  · exact (alike_assemble (recording read) catalogs options routes (reader, [])).1
  · exact alike_assemble read catalogs options routes reader

end Routebook
