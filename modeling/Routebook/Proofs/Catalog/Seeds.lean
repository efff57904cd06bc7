import Routebook.Proofs.Json.Alike
import Routebook.Schema.Catalog

namespace Routebook

/-!
# What the seed shows in a catalog

All samples of a catalog are drawn from one stream, in the order of the sources.  Two streams
are compared: every reader is run with either of them on the same source, and what it returns
is alike.  A name, a type or a format never depends on the stream, and a sample does only if it
is a drawn number.  The streams behind a reader need not have anything to do with each other,
since nothing is assumed of the streams before it.
-/

/-! ## Descriptors that are alike -/

/-- The samples of a property of this type in two runs: they are the same, or the type is one
of the two numeric ones and both are drawn. -/
inductive SampleAlike (type : PropertyType) : Json → Json → Prop
  | same (sample : Json) : SampleAlike type sample sample
  | drawn {first second : Json} (numeric : type = .primitive "number" ∨ type = .primitive "integer")
    (left : first.IsDrawn) (right : second.IsDrawn) : SampleAlike type first second

/-- A property with the same descriptor, up to its sample. -/
inductive Property.Alike (property : Property) : Property → Prop
  | of {sample : Json} (sampled : SampleAlike property.type property.sample sample) :
    property.Alike { property with sample := sample }

/-- A schema with the same name, the same kind and the same keys, whose properties are alike. -/
inductive Schema.Alike (schema : Schema) : Schema → Prop
  | of {properties : Keyed Property} (alike : schema.properties.Rel Property.Alike properties) :
    schema.Alike { schema with properties := properties }

/-- The same schemas in the same order, up to samples. -/
def Catalog.Alike (first second : Catalog) : Prop :=
  List.Forall₂ Schema.Alike first.schemas second.schemas

theorem SampleAlike.json {type : PropertyType} {first second : Json}
    (alike : SampleAlike type first second) : first.Alike second := by
  cases alike with
  | same => exact .same _
  | drawn _ left right => exact .drawn left right

theorem Property.Alike.refl (property : Property) : property.Alike property :=
  .of (.same property.sample)

theorem Schema.Alike.refl (schema : Schema) : schema.Alike schema :=
  .of (Keyed.Rel.refl Property.Alike.refl schema.properties)

/-! ## Samples -/

/-- How a sample is found: it is fixed and leaves the stream alone, or it is a number and is
drawn. -/
inductive Samples (type : String) : (RandomStream → Json × RandomStream) → Prop
  | fixed (sample : Json) : Samples type fun stream => (sample, stream)
  | drawn (numeric : type = "number" ∨ type = "integer") : Samples type Sample.randomInteger

theorem Sample.isDrawn_randomInteger (stream : RandomStream) :
    (randomInteger stream).1.IsDrawn :=
  ⟨stream.draw.1, _, Int.natCast_nonneg _, Int.ofNat_lt.mpr stream.draw_lt, rfl⟩

/-- Whatever is found in two streams is alike. -/
theorem Samples.alike {type : String} {choose : RandomStream → Json × RandomStream}
    (samples : Samples type choose) (first second : RandomStream) :
    SampleAlike (.primitive type) (choose first).1 (choose second).1 := by
  cases samples with
  | fixed sample => exact .same sample
  | drawn numeric =>
    refine .drawn ?_ (Sample.isDrawn_randomInteger first) (Sample.isDrawn_randomInteger second)
    exact numeric.imp (congrArg _) (congrArg _)

theorem samples_ofType (type : String) (format : Option String) :
    Samples type (Sample.ofType type format) := by
  unfold Sample.ofType
  split
  · split <;> exact .fixed _
  · split
    · exact .fixed _
    · exact .drawn (.inl rfl)
  · exact .drawn (.inr rfl)
  · exact .fixed _
  · exact .fixed _

theorem samples_memberSample (hint : Hint) (name type : String) (format : Option String) :
    Samples type (memberSample hint name type format) := by
  unfold memberSample
  split
  · exact .fixed _
  · split
    · exact .fixed _
    · exact samples_ofType type format

/-- No truth value is a number, so that setting it never hides a draw. -/
theorem Samples.orTrue {type : String} {choose : RandomStream → Json × RandomStream}
    (samples : Samples type choose) :
    Samples type fun stream =>
      (if type == "boolean" then .bool true else (choose stream).1, (choose stream).2) := by
  cases samples with
  | fixed sample => exact .fixed (if type == "boolean" then .bool true else sample)
  | drawn numeric =>
    rcases numeric with rfl | rfl
    · exact .drawn (.inl rfl)
    · exact .drawn (.inr rfl)

theorem samples_fieldSample (hint : Hint) (field type : String) (format : Option String) :
    Samples type (fieldSample hint field type format) := by
  apply Samples.orTrue
  split
  · exact .fixed _
  · split
    next numeric => exact .drawn ((by simpa using numeric : type = "number" ∨ type = "integer"))
    next =>
      split
      · exact .fixed _
      · exact samples_ofType type format

/-! ## Members and fields -/

/-- A convention that sets the sample sets it in both runs, and none changes the type of a
number and keeps its sample. -/
theorem Property.Alike.withConvention {first second : Property} (alike : first.Alike second)
    (name : String) : (first.withConvention name).Alike (second.withConvention name) := by
  rcases alike with ⟨sampled⟩
  unfold Property.withConvention
  split
  · exact .of (.same _)
  · split
    · exact .of (.same _)
    · split
      · exact .of (.same _)
      · exact .of sampled

theorem alike_readMember (field type : List Char) (hint : Hint) (first second : RandomStream) :
    Option.Rel (EntryRel Property.Alike) (readMember field type hint first).1
      (readMember field type hint second).1 := by
  unfold readMember
  dsimp only
  -- What is written fixes the property up to its sample.  How it is read does not matter.
  generalize memberName field = name
  generalize withoutNull (memberType type) = union
  generalize itemType union.1 = item
  generalize (propertyWith hint item.1).withHint hint = property
  split
  · exact .none
  · split
    next primitive ofType =>
      have samples := samples_memberSample hint (String.ofList name.1) primitive property.format
      have sampled := samples.alike first second
      rw [← ofType] at sampled
      exact .some (.of _ (Property.Alike.withConvention (.of sampled) _))
    next => exact .some (.of _ (.refl _))

theorem alike_readField (field : String) (type line : List Char) (hint : Hint)
    (first second : RandomStream) :
    (readField field type line hint first).1.Alike (readField field type line hint second).1 := by
  unfold readField
  dsimp only
  generalize withoutNull type = union
  generalize (fieldShape hint union.1 (isCollectionLine line)).withHint hint = property
  split
  next primitive ofType =>
    have samples := samples_fieldSample hint field primitive property.format
    have sampled := samples.alike first second
    rw [← ofType] at sampled
    exact Property.Alike.withConvention (.of sampled) _
  next => exact .refl _

/-! ## Interfaces -/

namespace InterfaceScan

/-- The same is known of the lines, up to samples.  The streams may be any two. -/
structure Alike (first second : InterfaceScan) : Prop where
  finished : List.Forall₂ Schema.Alike first.finished second.finished
  current : Option.Rel Schema.Alike first.current second.current
  hint : first.hint = second.hint
  openObjects : first.openObjects = second.openObjects

variable {first second : InterfaceScan}

theorem Alike.schemas (alike : first.Alike second) :
    List.Forall₂ Schema.Alike first.schemas second.schemas :=
  List.rel_append alike.finished (forall₂_toList alike.current)

theorem Alike.close (alike : first.Alike second) : first.close.Alike second.close :=
  ⟨alike.schemas, .none, alike.hint, alike.openObjects⟩

theorem Alike.readCode (alike : first.Alike second) {schema schema' : Schema}
    (current : schema.Alike schema') (line : List Char) :
    (first.readCode schema line).Alike (second.readCode schema' line) := by
  unfold InterfaceScan.readCode
  cases Text.cutAt? ':' line with
  | none => exact ⟨alike.finished, alike.current, rfl, alike.openObjects⟩
  | some parts =>
    dsimp only
    refine ⟨alike.finished, .some ?_, rfl, rfl⟩
    have members := alike_readMember parts.1 parts.2 first.hint first.stream second.stream
    rw [← alike.hint]
    rcases current with ⟨properties⟩
    generalize (readMember parts.1 parts.2 first.hint first.stream).1 = member at members ⊢
    generalize (readMember parts.1 parts.2 first.hint second.stream).1 = member' at members ⊢
    cases members with
    | none => exact .of properties
    | some entry =>
      rcases entry with ⟨name, property⟩
      exact .of (properties.insert name property)

/-- Every line is read alike, since its kind and its place do not depend on samples. -/
theorem Alike.step (alike : first.Alike second) (line : List Char) :
    (first.step line).Alike (second.step line) := by
  unfold InterfaceScan.step
  cases InterfaceLine.of line with
  | comment text => exact ⟨alike.finished, alike.current, rfl, alike.openObjects⟩
  | header name => exact ⟨alike.schemas, .some (.refl _), rfl, alike.openObjects⟩
  | code text =>
    rcases first with ⟨finished, current, hint, openObjects, stream⟩
    rcases second with ⟨finished', current', hint', openObjects', stream'⟩
    obtain ⟨finished, current, rfl, rfl⟩ := alike
    dsimp only at finished current ⊢
    cases current with
    | none => exact ⟨finished, .none, rfl, rfl⟩
    | some schema =>
      have now : Alike ⟨_, some _, hint, openObjects, stream⟩
          ⟨_, some _, hint, openObjects, stream'⟩ :=
        ⟨finished, .some schema, rfl, rfl⟩
      dsimp only
      split
      · split
        · exact ⟨finished, .some schema, rfl, rfl⟩
        · split
          · exact ⟨finished, .some schema, rfl, rfl⟩
          · exact now
      · split
        · exact now.close
        · exact now.readCode schema text

end InterfaceScan

theorem alike_readInterfaces (source : Source) (first second : RandomStream) :
    List.Forall₂ Schema.Alike (readInterfaces source first).1 (readInterfaces source second).1 := by
  apply InterfaceScan.Alike.schemas
  apply List.foldl_rel (r := InterfaceScan.Alike)
  · exact ⟨.nil, .none, rfl, rfl⟩
  · exact fun line _ _ _ alike => alike.step line

/-! ## Models -/

namespace ModelScan

/-- The same is known of the lines, up to samples.  The streams may be any two. -/
structure Alike (first second : ModelScan) : Prop where
  className : first.className = second.className
  softDelete : first.softDelete = second.softDelete
  properties : first.properties.Rel Property.Alike second.properties
  pending : first.pending = second.pending
  openParens : first.openParens = second.openParens

variable {first second : ModelScan}

theorem Alike.note (alike : first.Alike second) (line : List Char) :
    (first.note line).Alike (second.note line) where
  className := congrArg (·.or (className? line)) alike.className
  softDelete := congrArg
    (· || mentions line "@swagger-softdelete" || mentions line "SoftDeletes") alike.softDelete
  properties := alike.properties
  pending := alike.pending
  openParens := alike.openParens

theorem Alike.keep (alike : first.Alike second) (line : List Char) :
    (first.keep line).Alike (second.keep line) :=
  { alike with pending := congrArg (· ++ line ++ ['\n']) alike.pending }

theorem Alike.setOpenParens (alike : first.Alike second) (count : Int) :
    Alike { first with openParens := count } { second with openParens := count } :=
  { alike with openParens := rfl }

theorem Alike.readDeclaration (alike : first.Alike second) (snake : Bool)
    (line decorators declaration : List Char) :
    (first.readDeclaration snake line decorators declaration).Alike
      (second.readDeclaration snake line decorators declaration) := by
  have cleared : Alike { first with pending := [] } { second with pending := [] } :=
    { alike with pending := rfl }
  unfold ModelScan.readDeclaration
  rw [← alike.pending]
  dsimp only
  split
  · exact cleared
  · cases splitDeclaration? declaration with
    | none => exact cleared
    | some parts =>
      have field := alike_readField
        (String.ofList (if snake then snakeCase parts.1 else parts.1)) parts.2 line
        (.ofPending first.pending) first.stream second.stream
      exact { cleared with properties := alike.properties.insert _ field }

theorem Alike.readLine (alike : first.Alike second) (snake : Bool) (line : List Char) :
    (first.readLine snake line).Alike (second.readLine snake line) := by
  have noted := alike.note line
  unfold ModelScan.readLine
  dsimp only
  rw [← noted.openParens]
  split
  · exact (noted.setOpenParens _).keep line
  · split
    · exact noted.keep line
    · split
      · exact (noted.setOpenParens _).keep line
      · exact noted.readDeclaration snake _ _ _

theorem Alike.step (alike : first.Alike second) (snake : Bool) (line : List Char) :
    (first.step snake line).Alike (second.step snake line) := by
  unfold ModelScan.step
  dsimp only
  split
  · exact alike
  · exact alike.readLine snake _

end ModelScan

theorem alike_readModel (snake : Bool) (source : Source) (first second : RandomStream) :
    (readModel snake source first).1.Alike (readModel snake source second).1 := by
  have scanned : ((Text.lines source.text.toList).foldl (ModelScan.step snake) (.start first)).Alike
      ((Text.lines source.text.toList).foldl (ModelScan.step snake) (.start second)) := by
    apply List.foldl_rel (r := ModelScan.Alike)
    · exact ⟨rfl, rfl, Keyed.rel_empty, rfl, rfl⟩
    · exact fun line _ _ _ alike => alike.step snake line
  unfold readModel
  dsimp only
  rw [← scanned.className, ← scanned.softDelete]
  split
  · exact .of (scanned.properties.insert "deleted_at" (.refl softDeleteProperty))
  · exact .of scanned.properties

/-! ## The catalog -/

namespace Catalog

variable {first second : Catalog}

theorem alike_place {schema schema' : Schema} (alike : schema.Alike schema')
    {schemas schemas' : List Schema} (others : List.Forall₂ Schema.Alike schemas schemas') :
    List.Forall₂ Schema.Alike (place schema schemas) (place schema' schemas') := by
  induction others with
  | nil => exact .cons alike .nil
  | cons known rest inductionHypothesis =>
    rcases alike with ⟨properties⟩
    rcases known with ⟨knownProperties⟩
    unfold place
    dsimp only
    split
    · exact .cons (.of properties) rest
    · exact .cons (.of knownProperties) inductionHypothesis

theorem Alike.insert (alike : first.Alike second) {schema schema' : Schema}
    (inserted : schema.Alike schema') : (first.insert schema).Alike (second.insert schema') :=
  alike_place inserted alike

theorem Alike.insertAll (alike : first.Alike second) {schemas schemas' : List Schema}
    (inserted : List.Forall₂ Schema.Alike schemas schemas') :
    (first.insertAll schemas).Alike (second.insertAll schemas') := by
  unfold Catalog.insertAll
  induction inserted generalizing first second with
  | nil => exact alike
  | cons schema rest inductionHypothesis => exact inductionHypothesis (alike.insert schema)

/-- Catalogs of the same sources are alike, whatever streams their samples are drawn from. -/
theorem alike_build (interfaces models : List Source) (snake : Bool) (first second : RandomStream) :
    (build interfaces models snake first).Alike (build interfaces models snake second) := by
  have started : initial.Alike initial := .cons (.refl anySchema) .nil
  apply List.foldl_rel (r := fun state state' : Catalog × RandomStream => state.1.Alike state'.1)
  · apply List.foldl_rel (r := fun state state' : Catalog × RandomStream => state.1.Alike state'.1)
    · exact started
    · exact fun source _ state state' alike =>
        alike.insertAll (alike_readInterfaces source state.2 state'.2)
  · exact fun source _ state state' alike =>
      alike.insert (alike_readModel snake source state.2 state'.2)

/-! ### Questions to a catalog -/

theorem alike_find? {schemas schemas' : List Schema}
    (alike : List.Forall₂ Schema.Alike schemas schemas') (name : String) :
    Option.Rel Schema.Alike (schemas.find? (·.name == name)) (schemas'.find? (·.name == name)) := by
  induction alike with
  | nil => exact .none
  | cons head _ inductionHypothesis =>
    rcases head with ⟨properties⟩
    rw [List.find?_cons, List.find?_cons]
    dsimp only
    split
    · exact .some (.of properties)
    · exact inductionHypothesis

theorem Alike.get? (alike : first.Alike second) (name : String) :
    Option.Rel Schema.Alike (first.get? name) (second.get? name) :=
  alike_find? alike name

theorem Alike.isModel_eq (alike : first.Alike second) (name : String) :
    first.isModel name = second.isModel name := by
  have found := alike.get? name
  unfold Catalog.isModel
  generalize first.get? name = schema at found ⊢
  generalize second.get? name = schema' at found ⊢
  cases found with
  | none => rfl
  | some schema =>
    rcases schema with ⟨_⟩
    rfl

end Catalog
end Routebook
