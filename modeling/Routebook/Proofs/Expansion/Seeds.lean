import Routebook.Proofs.Catalog.Seeds
import Routebook.Proofs.Expansion.Reach

namespace Routebook
namespace Expansion

/-!
# What the seed shows in an example

An expansion asks its catalog for schemas and copies their samples.  It branches on names,
types and kinds, on which the catalogs of two runs agree, and on whether a sample is null, which
no drawn number is.  So the examples of two runs are alike: the same relations are followed, the
same fields appear, and a leaf differs only if it is a drawn number.
-/

variable {first second : Catalog} {maxDepth : Nat}

/-! ## Single properties -/

theorem alike_wrap {property property' : Property} (properties : property.Alike property')
    {value value' : Json} (values : value.Alike value') :
    (wrap property value).Alike (wrap property' value') := by
  rcases properties with ⟨_⟩
  unfold wrap
  dsimp only
  split
  · exact values.list_singleton
  · exact values

/-- The only test of a sample is whether it is null. -/
theorem alike_literal {property property' : Property} (properties : property.Alike property') :
    (literal property).Alike (literal property') := by
  rcases properties with ⟨sampled⟩
  unfold literal
  dsimp only
  rw [← sampled.json.isNull_eq]
  split
  · exact .same _
  · exact alike_wrap (.of sampled) sampled.json

theorem alike_expandProperty (alike : first.Alike second) (filter : Filter) (hops : Hops)
    {follow follow' : Hops → String → Option Json}
    (follows : ∀ hops target, Option.Rel Json.Alike (follow hops target) (follow' hops target))
    (key : String) {property property' : Property} (properties : property.Alike property') :
    Option.Rel Json.Alike (expandProperty ⟨first, maxDepth⟩ filter hops follow key property)
      (expandProperty ⟨second, maxDepth⟩ filter hops follow' key property') := by
  have literals := alike_literal properties
  have relation : property'.relation? = property.relation? := by
    rcases properties with ⟨_⟩
    rfl
  have placeholders : placeholder property' = placeholder property := by
    rcases properties with ⟨_⟩
    rfl
  unfold expandProperty
  rw [relation, placeholders]
  split
  · exact .none
  · cases property.relation? with
    | none => exact .some literals
    | some target =>
      dsimp only
      rw [omitsRelation_eq_of_isModel (alike.isModel_eq target)]
      split
      · exact .none
      · split
        · exact .some (.same _)
        · exact optionRel_map (follows (hops.child key) target) fun _ _ values =>
            alike_wrap properties values

/-! ## Schemas -/

theorem alike_expandFields (alike : first.Alike second) (filter : Filter) (hops : Hops)
    {follow follow' : Hops → String → Option Json}
    (follows : ∀ hops target, Option.Rel Json.Alike (follow hops target) (follow' hops target))
    {schema schema' : Schema} (schemas : schema.Alike schema') :
    Json.FieldsAlike (expandFields ⟨first, maxDepth⟩ filter hops follow schema)
      (expandFields ⟨second, maxDepth⟩ filter hops follow' schema') := by
  rcases schemas with ⟨properties⟩
  exact EntriesRel.filterMap (fun key _ _ properties =>
    alike_expandProperty alike filter hops follows key properties) properties

/-- The induction is on the budget, which both expansions spend on the same relations. -/
theorem alike_expandSchema (alike : first.Alike second) (filter : Filter) (budget : Nat)
    (hops : Hops) (name : String) :
    Option.Rel Json.Alike (expandSchema ⟨first, maxDepth⟩ filter budget hops name)
      (expandSchema ⟨second, maxDepth⟩ filter budget hops name) := by
  induction budget generalizing hops name with
  | zero => exact .some (.same _)
  | succ budget inductionHypothesis =>
    have found := alike.get? name
    have omitted : omitsBranch ⟨second, maxDepth⟩ filter hops name =
        omitsBranch ⟨first, maxDepth⟩ filter hops name := by
      unfold omitsBranch
      rw [← alike.isModel_eq]
    rw [expandSchema, expandSchema, omitted]
    dsimp only
    generalize first.get? name = schema at found ⊢
    generalize second.get? name = schema' at found ⊢
    cases found with
    | none => exact .some (.same _)
    | some schemas =>
      dsimp only
      split
      · exact .none
      · exact .some (.object (alike_expandFields alike filter hops inductionHypothesis schemas))

theorem budget_eq_of_alike (alike : first.Alike second) :
    budget ⟨first, maxDepth⟩ = budget ⟨second, maxDepth⟩ := by
  have schemas : first.schemas.length = second.schemas.length := List.Forall₂.length_eq alike
  unfold budget
  rw [schemas]

/-- Values are put over the fields of objects only. -/
theorem overlay_of_isDrawn (appended : Keyed Json) {value : Json} (drawn : value.IsDrawn) :
    overlay appended value = value := by
  rcases drawn with ⟨_, _, _, _, rfl⟩
  rfl

theorem alike_overlay (appended : Keyed Json) {value value' : Json} (values : value.Alike value') :
    (overlay appended value).Alike (overlay appended value') := by
  cases values with
  | same => exact .same _
  | drawn left right =>
    rw [overlay_of_isDrawn appended left, overlay_of_isDrawn appended right]
    exact .drawn left right
  | list items => exact .list items
  | object fields =>
    refine .object (List.foldl_rel fields ?_)
    exact fun entry _ _ _ fields => EntriesRel.insertEntry fields entry.1 (.same entry.2)

theorem alike_expand (alike : first.Alike second) (filter : Filter) (name : String) :
    (expand ⟨first, maxDepth⟩ filter name).Alike (expand ⟨second, maxDepth⟩ filter name) := by
  unfold expand bare
  rw [budget_eq_of_alike alike]
  exact alike_overlay filter.appended
    (optionRel_getD (alike_expandSchema alike filter _ [] name) (.same _))

theorem alike_expandReference (alike : first.Alike second) (filter : Filter)
    (reference : List Char) :
    (expandReference ⟨first, maxDepth⟩ filter reference).Alike
      (expandReference ⟨second, maxDepth⟩ filter reference) := by
  unfold expandReference
  dsimp only
  split
  · exact (alike_expand alike filter _).list_singleton
  · exact alike_expand alike filter _

/-! ## Examples that are written out -/

theorem alike_expandText (alike : first.Alike second) (value : String) :
    (expandText ⟨first, maxDepth⟩ value).Alike (expandText ⟨second, maxDepth⟩ value) := by
  unfold expandText
  split
  · exact alike_expandReference alike _ _
  · exact .same _

mutual

/-- Only the references within an authored value show a catalog. -/
theorem alike_expandInline (alike : first.Alike second) (value : Json) :
    (expandInline ⟨first, maxDepth⟩ value).Alike (expandInline ⟨second, maxDepth⟩ value) := by
  cases value with
  | object fields =>
    rw [expandInline, expandInline]
    exact .object (alike_expandInlineFields alike fields)
  | list items =>
    rw [expandInline, expandInline]
    exact .list (alike_expandInlineItems alike items)
  | text value =>
    rw [expandInline, expandInline]
    exact alike_expandText alike value
  | null => exact .same _
  | bool _ => exact .same _
  | number _ => exact .same _

theorem alike_expandInlineItems (alike : first.Alike second) (items : List Json) :
    List.Forall₂ Json.Alike (expandInlineItems ⟨first, maxDepth⟩ items)
      (expandInlineItems ⟨second, maxDepth⟩ items) := by
  cases items with
  | nil => exact .nil
  | cons item rest =>
    exact .cons (alike_expandInline alike item) (alike_expandInlineItems alike rest)

theorem alike_expandInlineFields (alike : first.Alike second) (fields : List (String × Json)) :
    Json.FieldsAlike (expandInlineFields ⟨first, maxDepth⟩ fields)
      (expandInlineFields ⟨second, maxDepth⟩ fields) := by
  cases fields with
  | nil => exact .nil
  | cons field rest =>
    exact .cons (.of field.1 (alike_expandInline alike field.2))
      (alike_expandInlineFields alike rest)

end

end Expansion
end Routebook
