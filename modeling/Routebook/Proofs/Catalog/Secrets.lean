import Routebook.Document.SchemaObject
import Routebook.Proofs.Catalog.Rule
import Routebook.Proofs.Json.Place

namespace Routebook

/-!
# Secrets of a catalog

Both readers end with the convention of the name, which overwrites what the type, the hint
and the stream gave to a secret: it becomes a text without a sample.  Every other sample that
a reader makes is a single value, so that no secret hides within one.  The two facts are one
rule of the properties of a catalog.
-/

/-- The sample is a single value, and a secret is a primitive property without a sample. -/
structure Guarded (name : String) (property : Property) : Prop where
  scalar : property.sample.isScalar = true
  concealed : isSecretName name = true → property.relation? = none ∧ property.sample = .null

/-! ## Samples -/

namespace Sample

theorem isScalar_randomInteger (stream : RandomStream) :
    (randomInteger stream).1.isScalar = true := rfl

theorem isScalar_of_ofField? {field : String} {sample : Json} (known : ofField? field = some sample) :
    sample.isScalar = true := by
  rcases Option.map_eq_some_iff.mp known with ⟨entry, _, rfl⟩
  rfl

theorem isScalar_ofType (type : String) (format : Option String) (stream : RandomStream) :
    (ofType type format stream).1.isScalar = true := by
  unfold ofType
  split
  · split <;> rfl
  · split <;> rfl
  · rfl
  · rfl
  · rfl

/-- What is read as a number is a number or null. -/
theorem isScalar_of_numeric? {raw : List Char} {value : Json} (read : numeric? raw = some value) :
    value.isScalar = true := by
  unfold numeric? at read
  split at read
  next whole integral =>
    rcases Option.bind_eq_some_iff.mp integral with ⟨number, _, converted⟩
    unfold Json.ofInt? at converted
    split at converted
    · rcases Option.some.inj (converted.trans read) with rfl
      rfl
    · cases converted
  next =>
    rcases Option.map_eq_some_iff.mp read with ⟨number, _, rfl⟩
    split <;> rfl

/-- A sample that is written in a comment is a single value. -/
theorem isScalar_coerce (raw : List Char) (type : String) : (coerce raw type).isScalar = true := by
  unfold coerce
  dsimp only
  split
  · cases read : numeric? (Text.trim raw) with
    | none => rfl
    | some value => exact isScalar_of_numeric? read
  · split
    · split
      · rfl
      · split <;> rfl
    · rfl

end Sample

theorem Hint.isScalar_of_sample? {hint : Hint} {type : String} {sample : Json}
    (prescribed : hint.sample? type = some sample) : sample.isScalar = true := by
  unfold Hint.sample? at prescribed
  split at prescribed
  · rcases Option.map_eq_some_iff.mp prescribed with ⟨choice, _, rfl⟩
    rfl
  · exact Option.some.inj prescribed ▸ Sample.isScalar_coerce _ _

theorem isScalar_memberSample (hint : Hint) (name type : String) (format : Option String)
    (stream : RandomStream) : (memberSample hint name type format stream).1.isScalar = true := by
  unfold memberSample
  split
  next prescribed => exact Hint.isScalar_of_sample? prescribed
  next =>
    split
    next known => exact Sample.isScalar_of_ofField? known
    next => exact Sample.isScalar_ofType type format stream

theorem isScalar_fieldSample (hint : Hint) (field type : String) (format : Option String)
    (stream : RandomStream) : (fieldSample hint field type format stream).1.isScalar = true := by
  unfold fieldSample
  dsimp only
  split
  · rfl
  · split
    next prescribed => exact Hint.isScalar_of_sample? prescribed
    next =>
      split
      · exact Sample.isScalar_randomInteger stream
      · split
        next known => exact Sample.isScalar_of_ofField? known
        next => exact Sample.isScalar_ofType type format stream

/-! ## Readers -/

/-- The convention of a name guards a property with a single value as its sample. -/
theorem guarded_withConvention {property : Property} (scalar : property.sample.isScalar = true)
    (name : String) : Guarded name (property.withConvention name) := by
  unfold Property.withConvention
  split
  next email =>
    exact ⟨rfl, fun secret => by rw [beq_iff_eq.mp email] at secret; cases secret⟩
  next =>
    split
    next => exact ⟨rfl, fun _ => ⟨rfl, rfl⟩⟩
    next shown =>
      split
      · exact ⟨rfl, fun secret => absurd secret shown⟩
      · exact ⟨scalar, fun secret => absurd secret shown⟩

/-- A written type alone gives no sample. -/
theorem isScalar_propertyWith (hint : Hint) (type : List Char) :
    (propertyWith hint type).sample.isScalar = true := by
  unfold propertyWith propertyOf
  split
  · split
    · rfl
    · split
      · rfl
      · split <;> rfl
  · rfl

theorem isScalar_fieldShape (hint : Hint) (base : List Char) (isCollection : Bool) :
    (fieldShape hint base isCollection).sample.isScalar = true := by
  unfold fieldShape
  split
  · rfl
  · exact isScalar_propertyWith hint _

theorem guarded_of_readMember {field type : List Char} {hint : Hint} {stream : RandomStream}
    {name : String} {property : Property}
    (read : (readMember field type hint stream).1 = some (name, property)) :
    Guarded name property := by
  dsimp only [readMember] at read
  split at read
  · cases read
  · split at read
    · rcases Prod.mk.inj (Option.some.inj read) with ⟨rfl, rfl⟩
      exact guarded_withConvention (isScalar_memberSample _ _ _ _ _) _
    · rcases Prod.mk.inj (Option.some.inj read) with ⟨rfl, rfl⟩
      refine guarded_withConvention ?_ _
      dsimp only [Property.withHint]
      exact isScalar_propertyWith hint _

theorem guarded_readField (field : String) (type line : List Char) (hint : Hint)
    (stream : RandomStream) : Guarded field (readField field type line hint stream).1 := by
  dsimp only [readField]
  split
  · exact guarded_withConvention (isScalar_fieldSample _ _ _ _ _) _
  · refine guarded_withConvention ?_ _
    dsimp only [Property.withHint]
    exact isScalar_fieldShape hint _ _

/-- Both readers guard what they read. -/
theorem keptByReading_guarded : KeptByReading Guarded where
  member _ _ _ _ _ _ read := guarded_of_readMember read
  field _ _ _ _ _ _ _ _ := guarded_readField _ _ _ _ _
  softDelete := ⟨rfl, by decide⟩

/-- Every property of a catalog of sources is guarded. -/
theorem Catalog.guarded_build (interfaces models : List Source) (snake : Bool)
    (stream : RandomStream) : (Catalog.build interfaces models snake stream).All Guarded :=
  all_build keptByReading_guarded interfaces models snake stream

/-! ## Components -/

namespace SchemaObject

/-- The schema object of a property without a sample has no example, and neither have its
items. -/
theorem sample_ofProperty {property : Property} (concealed : property.sample = .null) :
    (ofProperty property).sample = none ∧
      ∀ items, (ofProperty property).items = some items → items.sample = none := by
  have element : (ofElement property).sample = none ∧ (ofElement property).items = none := by
    unfold ofElement
    rw [concealed]
    split <;> exact ⟨rfl, rfl⟩
  have marked : ∀ schema : SchemaObject,
      let whole := if property.nullable && schema.reference.isNone then
        { schema with nullable := some true } else schema
      whole.sample = schema.sample ∧ whole.items = schema.items := by
    intro schema
    dsimp only
    split <;> exact ⟨rfl, rfl⟩
  dsimp only [ofProperty]
  rw [(marked _).1, (marked _).2]
  split
  · exact ⟨rfl, fun items found => Option.some.inj found ▸ element.1⟩
  · exact ⟨element.1, fun items found => absurd (element.2.symm.trans found) nofun⟩

end SchemaObject
end Routebook
