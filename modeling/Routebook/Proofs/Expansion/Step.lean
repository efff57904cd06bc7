import Mathlib.Data.List.Basic
import Routebook.Expansion
import Routebook.Proofs.Entries

namespace Routebook
namespace Expansion

/-!
# One step of an expansion

A schema is expanded field by field, and only a relation asks for another schema.  This
module says once what a field can become and what a schema can become.  Statements about
whole examples are inductions over the budget from here on, without a further look at the
order in which the expansion makes its tests.
-/

variable {expansion : Expansion} {filter : Filter} {hops : Hops}
  {follow : Hops → String → Option Json} {key name : String} {property : Property} {value : Json}

/-- A relation is followed from the end of the hops: it is shown, it is not left out as an
unrequested relation, and the greatest depth is not reached. -/
def Follows (expansion : Expansion) (filter : Filter) (hops : Hops) (key : String)
    (property : Property) (target : String) : Prop :=
  filter.shows hops key = true ∧ property.relation? = some target ∧
    expansion.omitsRelation filter hops key target = false ∧ hops.length < expansion.maxDepth

/-- A field that appears is shown, and it is the literal of a primitive property, the
placeholder of a relation at the greatest depth, or what a relation that is followed leads
to. -/
theorem expandProperty_cases
    (appears : expansion.expandProperty filter hops follow key property = some value) :
    filter.shows hops key = true ∧
      ((property.relation? = none ∧ value = literal property) ∨
        (∃ target, property.relation? = some target ∧ expansion.maxDepth ≤ hops.length ∧
          value = placeholder property) ∨
        ∃ target nested, expansion.Follows filter hops key property target ∧
          follow (hops.child key) target = some nested ∧ value = wrap property nested) := by
  unfold expandProperty at appears
  split at appears
  · cases appears
  next hidden =>
    have shown : filter.shows hops key = true := by simpa using hidden
    refine ⟨shown, ?_⟩
    cases relation : property.relation? with
    | none =>
      rw [relation] at appears
      exact Or.inl ⟨rfl, (Option.some.inj appears).symm⟩
    | some target =>
      rw [relation] at appears
      dsimp only at appears
      split at appears
      · cases appears
      next kept =>
        have requested : expansion.omitsRelation filter hops key target = false :=
          Bool.eq_false_iff.mpr kept
        split at appears
        next capped =>
          exact Or.inr (Or.inl ⟨target, rfl, Nat.le_of_lt_succ capped,
            (Option.some.inj appears).symm⟩)
        next free =>
          rcases Option.map_eq_some_iff.mp appears with ⟨nested, reached, same⟩
          exact Or.inr (Or.inr ⟨target, nested,
            ⟨shown, relation, requested, Nat.lt_of_not_le fun capped =>
              free (Nat.lt_succ_of_le capped)⟩, reached, same.symm⟩)

/-- A relation that appears is not left out as an unrequested one. -/
theorem omitsRelation_of_appears {target : String}
    (appears : expansion.expandProperty filter hops follow key property = some value)
    (relation : property.relation? = some target) :
    expansion.omitsRelation filter hops key target = false := by
  unfold expandProperty at appears
  rw [relation] at appears
  split at appears
  · cases appears
  · dsimp only at appears
    split at appears
    · cases appears
    next kept => exact Bool.eq_false_iff.mpr kept

theorem expandProperty_eq_literal (shown : filter.shows hops key = true)
    (primitive : property.relation? = none) :
    expansion.expandProperty filter hops follow key property = some (literal property) := by
  simp [expandProperty, shown, primitive]

theorem expandProperty_eq_placeholder {target : String} (shown : filter.shows hops key = true)
    (relation : property.relation? = some target)
    (kept : expansion.omitsRelation filter hops key target = false)
    (capped : expansion.maxDepth ≤ hops.length) :
    expansion.expandProperty filter hops follow key property = some (placeholder property) := by
  simp [expandProperty, shown, relation, kept, Nat.lt_succ_of_le capped]

theorem expandProperty_eq_follow {target : String}
    (follows : expansion.Follows filter hops key property target) :
    expansion.expandProperty filter hops follow key property =
      (follow (hops.child key) target).map (wrap property) := by
  rcases follows with ⟨shown, relation, kept, free⟩
  have within : ¬ expansion.maxDepth < hops.length + 1 := Nat.not_lt_of_le free
  simp [expandProperty, shown, relation, kept, within]

/-- A field depends only on where its relation is followed to. -/
theorem expandProperty_congr {other : Hops → String → Option Json}
    (same : ∀ target, expansion.Follows filter hops key property target →
      follow (hops.child key) target = other (hops.child key) target) :
    expansion.expandProperty filter hops follow key property =
      expansion.expandProperty filter hops other key property := by
  unfold expandProperty
  split
  · rfl
  next hidden =>
    cases relation : property.relation? with
    | none => rfl
    | some target =>
      dsimp only
      split
      · rfl
      next kept =>
        split
        · rfl
        next free =>
          have followed : expansion.Follows filter hops key property target :=
            ⟨by simpa using hidden, relation, Bool.eq_false_iff.mpr kept,
              Nat.lt_of_not_le fun capped => free (Nat.lt_succ_of_le capped)⟩
          rw [same target followed]

/-- The fields of a schema depend only on where its relations are followed to. -/
theorem expandFields_congr {other : Hops → String → Option Json} {schema : Schema}
    (same : ∀ entry ∈ schema.properties.entries, ∀ target,
      expansion.Follows filter hops entry.1 entry.2 target →
        follow (hops.child entry.1) target = other (hops.child entry.1) target) :
    expansion.expandFields filter hops follow schema =
      expansion.expandFields filter hops other schema := by
  refine List.filterMap_congr fun entry member => ?_
  rw [expandProperty_congr (same entry member)]

/-- The value of a field within the expanded fields of a schema. -/
theorem entryAt?_expandFields (schema : Schema) (key : String) :
    entryAt? key (expansion.expandFields filter hops follow schema) =
      (schema.properties.get? key).bind (expansion.expandProperty filter hops follow key) :=
  entryAt?_filterMap (expansion.expandProperty filter hops follow) schema.properties.distinct key

/-- Every expanded field comes from a property of the schema. -/
theorem mem_expandFields {schema : Schema}
    (member : (key, value) ∈ expansion.expandFields filter hops follow schema) :
    ∃ property, (key, property) ∈ schema.properties.entries ∧
      expansion.expandProperty filter hops follow key property = some value := by
  rcases List.mem_filterMap.mp member with ⟨entry, written, appears⟩
  rcases Option.map_eq_some_iff.mp appears with ⟨inner, expanded, same⟩
  rcases Prod.mk.inj same with ⟨rfl, rfl⟩
  exact ⟨entry.2, written, expanded⟩

/-- An expanded schema is an object without fields, or with the expanded fields of a schema of
the catalog. -/
theorem expandSchema_cases {budget : Nat}
    (expanded : expansion.expandSchema filter budget hops name = some value) :
    value = .object [] ∨ ∃ less schema, budget = less + 1 ∧
      expansion.catalog.get? name = some schema ∧
      value = .object (expansion.expandFields filter hops (expansion.expandSchema filter less)
        schema) := by
  cases budget with
  | zero => exact Or.inl (Option.some.inj expanded).symm
  | succ less =>
    rw [expandSchema] at expanded
    cases found : expansion.catalog.get? name with
    | none =>
      rw [found] at expanded
      exact Or.inl (Option.some.inj expanded).symm
    | some schema =>
      rw [found] at expanded
      dsimp only at expanded
      split at expanded
      · cases expanded
      · exact Or.inr ⟨less, schema, rfl, rfl, (Option.some.inj expanded).symm⟩

/-- The outermost branch is never left out, so a schema always has an example. -/
theorem expandSchema_root (expansion : Expansion) (filter : Filter) (budget : Nat)
    (name : String) :
    ∃ value, expansion.expandSchema filter budget [] name = some value := by
  cases budget with
  | zero => exact ⟨_, rfl⟩
  | succ less =>
    rw [expandSchema]
    cases expansion.catalog.get? name with
    | none => exact ⟨_, rfl⟩
    | some schema => exact ⟨_, rfl⟩

end Expansion
end Routebook
