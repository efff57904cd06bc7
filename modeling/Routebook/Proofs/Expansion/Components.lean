import Routebook.Proofs.Catalog.Definitions
import Routebook.Proofs.Expansion.Chain
import Routebook.Proofs.Expansion.Step

namespace Routebook

/-!
# Examples and components

The document publishes every schema twice: as a component, which says what a value of the schema
is like, and through examples, which are such values.  The components are written from the
catalog in one pass.  The examples come from a recursion that follows relations, leaves fields
out and stops at a depth.  `Fits` states what the two have in common, with the component of a
schema on one side and an object of an example on the other, and every example fits.

An example need not show everything, so a fitting object may lack any field.  What it shows has
to stand in the order of the component, and has to be a list, an object or a literal as the
component says.
-/

/-! ## Published shapes -/

namespace SchemaObject

/-- A property is published as a list or as a single value, and only the mark for a missing
value may be added. -/
theorem ofProperty_eq (property : Property) : ∃ nullable, ofProperty property =
    { (if property.isArray then ofItems (ofElement property) else ofElement property) with
      nullable := nullable } := by
  dsimp only [ofProperty]
  generalize (if property.isArray then ofItems (ofElement property) else ofElement property) = shape
  split
  · exact ⟨some true, rfl⟩
  · exact ⟨shape.nullable, by cases shape; rfl⟩

theorem list_ofProperty {property : Property} (list : property.isArray = true) :
    (ofProperty property).type = some "array" ∧
      (ofProperty property).items = some (ofElement property) := by
  rcases ofProperty_eq property with ⟨_, same⟩
  rw [same, list]
  exact ⟨rfl, rfl⟩

/-- A single relation is published as a reference. -/
theorem reference_ofProperty {property : Property} {target : String}
    (single : property.isArray = false) (relation : property.relation? = some target) :
    (ofProperty property).reference = some (componentPath ++ target) := by
  have element : ofElement property = ofReference target := by
    unfold Property.relation? at relation
    unfold ofElement
    cases type : property.type with
    | reference name =>
      rw [type] at relation
      exact congrArg ofReference (Option.some.inj relation)
    | _ =>
      rw [type] at relation
      cases relation
  rcases ofProperty_eq property with ⟨_, same⟩
  rw [same, single, element]
  rfl

end SchemaObject

/-! ## Fitting examples -/

/-- The items of a list, or a single value. -/
def Json.elements : Json → List Json
  | .list items => items
  | value => [value]

/-- A value is the kind of value that a property has and that its published shape allows. -/
structure FieldFits (property : Property) (shape : SchemaObject) (value : Json) : Prop where
  list : property.isArray = true →
    shape.type = some "array" ∧ shape.items = some (.ofElement property) ∧
      ∃ items, value = .list items ∧ items.length ≤ 1
  relation : property.isArray = false → ∀ target, property.relation? = some target →
    shape.reference = some (SchemaObject.componentPath ++ target) ∧
      ∃ fields, value = .object fields
  literal : property.isArray = false → property.relation? = none → value = property.sample

/-- An object is an example of the schema with a name: its keys are some of the keys of the
component in their order, every field fits its property, and the relations lead to examples of
their schemas again.  A name without a schema has the empty object as its example. -/
inductive Fits (catalog : Catalog) : String → Json → Prop where
  | unknown {name : String} (missing : catalog.get? name = none) : Fits catalog name (.object [])
  | object {name : String} {schema : Schema} {component : SchemaObject}
      {shapes : List (String × SchemaObject)} {fields : List (String × Json)}
      (found : catalog.get? name = some schema)
      (published : entryAt? name catalog.components = some component)
      (described : component.properties = some shapes)
      (ordered : (entryKeys fields).Sublist (entryKeys shapes))
      (agree : ∀ key value, (key, value) ∈ fields → ∃ property shape,
        schema.properties.get? key = some property ∧ entryAt? key shapes = some shape ∧
          FieldFits property shape value)
      (nested : ∀ key value, (key, value) ∈ fields → ∀ property target,
        schema.properties.get? key = some property → property.relation? = some target →
          ∀ inner ∈ value.elements, Fits catalog target inner) :
      Fits catalog name (.object fields)

namespace Expansion

variable {expansion : Expansion} {filter : Filter} {hops : Hops}
  {follow : Hops → String → Option Json} {key name : String} {property : Property} {value : Json}

/-- The empty object is an example of every schema. -/
theorem fits_object_nil (catalog : Catalog) (name : String) : Fits catalog name (.object []) := by
  cases found : catalog.get? name with
  | none => exact .unknown found
  | some schema =>
    have published := catalog.entryAt?_components name
    rw [found] at published
    exact .object found published rfl (List.nil_sublist _) nofun nofun

theorem eq_object_of_expandSchema {budget : Nat}
    (expanded : expansion.expandSchema filter budget hops name = some value) :
    ∃ fields, value = .object fields := by
  rcases expandSchema_cases expanded with same | ⟨_, _, _, _, same⟩
  · exact ⟨_, same⟩
  · exact ⟨_, same⟩

/-! ## One field -/

/-- What is shown of a property fits it, if relations lead to objects. -/
theorem fieldFits_of_expandProperty
    (objects : ∀ hops target nested, follow hops target = some nested →
      ∃ fields, nested = .object fields)
    (appears : expansion.expandProperty filter hops follow key property = some value) :
    FieldFits property (.ofProperty property) value where
  list isArray := by
    have shape := SchemaObject.list_ofProperty isArray
    refine ⟨shape.1, shape.2, ?_⟩
    rcases (expandProperty_cases appears).2
        with ⟨_, rfl⟩ | ⟨_, _, _, rfl⟩ | ⟨_, nested, _, _, rfl⟩
    · unfold literal wrap
      rw [isArray]
      split
      · exact ⟨_, rfl, Nat.zero_le 1⟩
      · exact ⟨_, rfl, Nat.le_refl 1⟩
    · unfold placeholder
      rw [isArray]
      exact ⟨_, rfl, Nat.zero_le 1⟩
    · unfold wrap
      rw [isArray]
      exact ⟨_, rfl, Nat.le_refl 1⟩
  relation single target relation := by
    refine ⟨SchemaObject.reference_ofProperty single relation, ?_⟩
    rcases (expandProperty_cases appears).2
        with ⟨primitive, _⟩ | ⟨_, _, _, rfl⟩ | ⟨_, nested, _, reached, rfl⟩
    · exact absurd (primitive.symm.trans relation) nofun
    · unfold placeholder
      rw [single]
      exact ⟨[], rfl⟩
    · unfold wrap
      rw [single]
      exact objects _ _ _ reached
  literal single primitive := by
    rcases (expandProperty_cases appears).2
        with ⟨_, rfl⟩ | ⟨_, relation, _⟩ | ⟨_, _, followed, _⟩
    · unfold literal wrap
      rw [single]
      rfl
    · exact absurd (primitive.symm.trans relation) nofun
    · exact absurd (primitive.symm.trans followed.2.1) nofun

/-- What a relation shows are examples of its schema, if what it leads to is one. -/
theorem fits_of_mem_elements {target : String} {catalog : Catalog}
    (objects : ∀ hops target nested, follow hops target = some nested →
      (∃ fields, nested = .object fields) ∧ Fits catalog target nested)
    (appears : expansion.expandProperty filter hops follow key property = some value)
    (relation : property.relation? = some target) {inner : Json}
    (member : inner ∈ value.elements) : Fits catalog target inner := by
  rcases (expandProperty_cases appears).2
      with ⟨primitive, _⟩ | ⟨_, _, _, rfl⟩ | ⟨other, nested, followed, reached, rfl⟩
  · exact absurd (primitive.symm.trans relation) nofun
  · unfold placeholder at member
    split at member
    · cases member
    · rw [List.mem_singleton.mp member]
      exact fits_object_nil catalog target
  · rcases Option.some.inj (followed.2.1.symm.trans relation) with rfl
    rcases objects _ _ _ reached with ⟨⟨fields, rfl⟩, fits⟩
    have single : inner = .object fields := by
      unfold wrap at member
      split at member
      · exact List.mem_singleton.mp member
      · exact List.mem_singleton.mp member
    exact single ▸ fits

/-! ## Whole examples -/

theorem keys_expandFields_sublist (schema : Schema) :
    (entryKeys (expansion.expandFields filter hops follow schema)).Sublist
      (entryKeys schema.properties.entries) := by
  unfold expandFields
  generalize schema.properties.entries = entries
  induction entries with
  | nil => exact List.Sublist.refl _
  | cons first rest inductionHypothesis =>
    rw [List.filterMap_cons]
    cases expansion.expandProperty filter hops follow first.1 first.2 with
    | none => exact inductionHypothesis.cons first.1
    | some value => exact inductionHypothesis.cons_cons first.1

/-- Every expanded schema is an example of the schema. -/
theorem fits_of_expandSchema {budget : Nat}
    (expanded : expansion.expandSchema filter budget hops name = some value) :
    Fits expansion.catalog name value := by
  induction budget generalizing hops name value with
  | zero =>
    rcases Option.some.inj expanded with rfl
    exact fits_object_nil _ _
  | succ budget inductionHypothesis =>
    rcases expandSchema_cases expanded with rfl | ⟨less, schema, same, found, rfl⟩
    · exact fits_object_nil _ _
    rcases Nat.succ.inj same with rfl
    have published := expansion.catalog.entryAt?_components name
    rw [found] at published
    refine .object found published rfl ?_ ?_ ?_
    · have keys : (entryKeys (expansion.expandFields filter hops
          (expansion.expandSchema filter budget) schema)).Sublist
          (entryKeys schema.properties.entries) := keys_expandFields_sublist schema
      simpa [entryKeys, Function.comp_def] using keys
    · intro key value field
      rcases mem_expandFields field with ⟨property, written, appears⟩
      have known : schema.properties.get? key = some property :=
        entryAt?_eq_some_of_mem schema.properties.distinct written
      refine ⟨property, .ofProperty property, known, ?_,
        fieldFits_of_expandProperty (fun _ _ _ reached => eq_object_of_expandSchema reached)
          appears⟩
      rw [entryAt?_map]
      exact congrArg (Option.map SchemaObject.ofProperty) known
    · intro key value field property target known relation inner member
      rcases mem_expandFields field with ⟨other, written, appears⟩
      have sameProperty : some other = some property :=
        (entryAt?_eq_some_of_mem schema.properties.distinct written).symm.trans known
      rcases Option.some.inj sameProperty with rfl
      exact fits_of_mem_elements
        (fun _ _ _ reached => ⟨eq_object_of_expandSchema reached, inductionHypothesis reached⟩)
        appears relation member

theorem overlay_empty (value : Json) : overlay .empty value = value := by
  cases value <;> rfl

/-- The example of a name is an object that fits the schema of the name, unless values are
appended. -/
theorem fits_expand (expansion : Expansion) (nothing : filter.appended = .empty) (name : String) :
    ∃ fields, expansion.expand filter name = .object fields ∧
      Fits expansion.catalog name (.object fields) := by
  rcases expandSchema_root expansion filter expansion.budget name with ⟨value, expanded⟩
  rcases eq_object_of_expandSchema expanded with ⟨fields, rfl⟩
  refine ⟨fields, ?_, fits_of_expandSchema expanded⟩
  rw [expand, bare, expanded, nothing]
  exact overlay_empty _

/-- Examples agree with the published schemas.  A reference is published as a list exactly if
its example is one, and the list then has one item.  This item, or else the example itself, is
an object that fits the schema of the name. -/
theorem examples_fit_components (expansion : Expansion) (filter : Filter)
    (nothing : filter.appended = .empty) (reference : List Char) :
    let name := (SchemaObject.splitReference reference).1
    let published := SchemaObject.ofWrittenReference reference
    let value := expansion.expandReference filter reference
    (published.type = some "array" ↔ ∃ items, value = .list items) ∧
      ∃ fields, Fits expansion.catalog name (.object fields) ∧
        (published = .ofItems (.ofReference name) ∧ value = .list [.object fields] ∨
          published = .ofReference name ∧ value = .object fields) := by
  dsimp only [SchemaObject.ofWrittenReference, expandReference]
  rcases SchemaObject.splitReference reference with ⟨name, isList⟩
  rcases fits_expand expansion nothing name with ⟨fields, whole, fits⟩
  dsimp only
  rw [whole]
  cases isList with
  | true =>
    refine ⟨⟨fun _ => ⟨_, rfl⟩, fun _ => rfl⟩, fields, fits, Or.inl ⟨rfl, rfl⟩⟩
  | false =>
    refine ⟨⟨?_, ?_⟩, fields, fits, Or.inr ⟨rfl, rfl⟩⟩
    · intro type
      cases type
    · rintro ⟨items, same⟩
      cases same

/-- A list of users with their posts at the greatest depth two: the component of a user lists
`id` before `posts`, and so does the example. -/
theorem examples_fit_components_users :
    (Filter.asking ["posts"]).appended = .empty ∧
      (SchemaObject.ofWrittenReference "User[]".toList).type = some "array" ∧
      expandReference ⟨Catalog.blog, 2⟩ (.asking ["posts"]) "User[]".toList =
        .list [.object [("id", .null), ("posts", .list [.object [("title", .text "Lorem")]])]] ∧
      Fits Catalog.blog "User"
        (.object [("id", .null), ("posts", .list [.object [("title", .text "Lorem")]])]) := by
  have agreed := examples_fit_components ⟨Catalog.blog, 2⟩ (.asking ["posts"]) rfl "User[]".toList
  have name : (SchemaObject.splitReference "User[]".toList).1 = "User" := by decide +kernel
  have value : expandReference ⟨Catalog.blog, 2⟩ (.asking ["posts"]) "User[]".toList =
      .list [.object [("id", .null), ("posts", .list [.object [("title", .text "Lorem")]])]] := by
    decide +kernel
  dsimp only at agreed
  rw [name, value] at agreed
  rcases agreed.2 with ⟨fields, fits, ⟨_, same⟩ | ⟨_, other⟩⟩
  · refine ⟨rfl, agreed.1.mpr ⟨_, rfl⟩, value, ?_⟩
    have item := (List.cons.inj (Json.list.inj same)).1
    rw [item]
    exact fits
  · cases other

end Expansion
end Routebook
