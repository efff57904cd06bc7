import Mathlib.Data.List.Basic
import Routebook.Proofs.Catalog.Names
import Routebook.Proofs.Expansion.Visibility
import Routebook.Proofs.Json.Place

namespace Routebook

/-!
# The example that the visible chains draw

An example is expanded by a recursion that decides about each relation in several steps: some
before it follows the relation, some only after it has arrived at the schema behind it.  The
definition `Catalog.drawn` below decides in one place, by the conditions on names and paths
alone, and knows no budget.  For every catalog whose names are neither empty nor hold a point
the two give the same example.

What a reader of a filter cares about follows for whole chains of relations: a chain within
the greatest depth leads to the example of the schema at its end exactly if each of its links
is visible.
-/

namespace Catalog

variable (catalog : Catalog) (filter : Filter)

/-- A relation at the end of the hops is visible: it is shown, and it is requested if it
leads to a model. -/
def Visible (hops : Hops) (key target : String) : Prop :=
  filter.Shown hops key ∧ (catalog.isModel target = true → filter.Requested hops key)

/-- A relation at the end of the hops leaves a placeholder if it may not be followed.  Only
an outermost relation has to be requested for that. -/
def Stubbed (hops : Hops) (key target : String) : Prop :=
  filter.Shown hops key ∧
    (hops = [] → catalog.isModel target = true → filter.Requested hops key)

instance (hops : Hops) (key target : String) : Decidable (catalog.Visible filter hops key target) :=
  inferInstanceAs (Decidable (_ ∧ (_ → _)))

instance (hops : Hops) (key target : String) : Decidable (catalog.Stubbed filter hops key target) :=
  inferInstanceAs (Decidable (_ ∧ (_ → _ → _)))

/-- The value of a property at the end of the hops, if it appears.  `below` draws the schema
of a relation, and is missing where no relation may be followed. -/
def drawnField (hops : Hops) (below : Option (String → Json)) (key : String)
    (property : Property) : Option Json :=
  match property.relation? with
  | none => if filter.Shown hops key then some (Expansion.literal property) else none
  | some target =>
    match below with
    | none =>
      if catalog.Stubbed filter hops key target then some (Expansion.placeholder property)
      else none
    | some draw =>
      if catalog.Visible filter hops key target then some (Expansion.wrap property (draw target))
      else none

/-- The object with the fields of a schema that appear, in their order. -/
def drawnObject (field : String → Property → Option Json) (name : String) : Json :=
  match catalog.get? name with
  | none => .object []
  | some schema =>
    .object (schema.properties.entries.filterMap fun entry =>
      (field entry.1 entry.2).map fun value => (entry.1, value))

/-- The example of a schema at the end of the hops, from which chains of relations may be
followed as far as the number says. -/
def drawn : (remaining : Nat) → (hops : Hops) → (name : String) → Json
  | 0, hops, name => catalog.drawnObject (fun key => catalog.drawnField filter hops none key) name
  | remaining + 1, hops, name =>
    catalog.drawnObject (fun key =>
      catalog.drawnField filter hops (some (drawn remaining (hops ++ [key]))) key) name

/-- How the schema of a relation is drawn. -/
def below (remaining : Nat) (hops : Hops) (key : String) : Option (String → Json) :=
  match remaining with
  | 0 => none
  | remaining + 1 => some (catalog.drawn filter remaining (hops ++ [key]))

variable {catalog filter}

theorem drawn_eq (remaining : Nat) (hops : Hops) (name : String) :
    catalog.drawn filter remaining hops name =
      catalog.drawnObject (fun key =>
        catalog.drawnField filter hops (catalog.below filter remaining hops key) key) name := by
  cases remaining <;> rfl

/-- A drawn example is an object, so no list hides it. -/
theorem content_drawn (remaining : Nat) (hops : Hops) (name : String) :
    (catalog.drawn filter remaining hops name).content =
      catalog.drawn filter remaining hops name := by
  rw [drawn_eq, drawnObject]
  cases catalog.get? name <;> rfl

/-- What is read within a wrapped example is the example. -/
theorem content_wrap_drawn (property : Property) (remaining : Nat) (hops : Hops) (name : String) :
    (Expansion.wrap property (catalog.drawn filter remaining hops name)).content =
      catalog.drawn filter remaining hops name := by
  unfold Expansion.wrap
  split
  · rfl
  · exact content_drawn remaining hops name

/-- The fields of a drawn example. -/
theorem get?_drawn {name key : String} {schema : Schema} {property : Property}
    (found : catalog.get? name = some schema)
    (written : schema.properties.get? key = some property) (remaining : Nat) (hops : Hops) :
    (catalog.drawn filter remaining hops name).get? key =
      catalog.drawnField filter hops (catalog.below filter remaining hops key) key property := by
  rw [drawn_eq, drawnObject, found]
  dsimp only
  rw [Json.get?_object, entryAt?_filterMap
    (fun key => catalog.drawnField filter hops (catalog.below filter remaining hops key) key)
    schema.properties.distinct]
  have value : entryAt? key schema.properties.entries = some property := written
  rw [value, Option.bind_some]

/-- A name without a schema is no model. -/
theorem isModel_eq_false {name : String} (missing : catalog.get? name = none) :
    catalog.isModel name = false := by
  rw [isModel, missing]
  rfl

end Catalog

/-! ## The expansion draws -/

namespace Expansion

variable {expansion : Expansion} {filter : Filter}

/-- A field that is not shown appears on neither side. -/
theorem expandProperty_of_not_shown {hops : Hops} (named : hops.Named) {key : String}
    (hidden : ¬ filter.Shown hops key) (follow : Hops → String → Option Json)
    (below : Option (String → Json)) (property : Property) :
    expansion.expandProperty filter hops follow key property =
      expansion.catalog.drawnField filter hops below key property := by
  have unseen : filter.shows hops key = false :=
    Bool.eq_false_iff.mpr (mt (Filter.shows_iff named).mp hidden)
  have noStub : ∀ target, ¬ expansion.catalog.Stubbed filter hops key target :=
    fun _ stubbed => hidden stubbed.1
  have noView : ∀ target, ¬ expansion.catalog.Visible filter hops key target :=
    fun _ visible => hidden visible.1
  unfold expandProperty Catalog.drawnField
  cases property.relation? <;> cases below <;> simp [unseen, hidden, noStub, noView]

/-- A field without a relation is drawn alike, whatever may be followed. -/
theorem expandProperty_of_primitive {hops : Hops} (named : hops.Named) {key : String}
    (shown : filter.Shown hops key) (follow : Hops → String → Option Json)
    (below : Option (String → Json)) {property : Property} (primitive : property.relation? = none) :
    expansion.expandProperty filter hops follow key property =
      expansion.catalog.drawnField filter hops below key property := by
  have seen : filter.shows hops key = true := (Filter.shows_iff named).mpr shown
  simp [expandProperty, Catalog.drawnField, primitive, seen, shown]

/-- At the greatest depth the expansion draws each field, whatever it would follow. -/
theorem expandProperty_eq_drawnField_none {hops : Hops} (named : hops.Named)
    (deepest : hops.length = expansion.maxDepth) (follow : Hops → String → Option Json)
    (key : String) (property : Property) :
    expansion.expandProperty filter hops follow key property =
      expansion.catalog.drawnField filter hops none key property := by
  by_cases shown : filter.Shown hops key
  · cases relation : property.relation? with
    | none => exact expandProperty_of_primitive named shown follow none relation
    | some target =>
      have seen : filter.shows hops key = true := (Filter.shows_iff named).mpr shown
      have capped : expansion.maxDepth < hops.length + 1 := by omega
      have omitted : expansion.omitsRelation filter hops key target = true ↔
          ¬ expansion.catalog.Stubbed filter hops key target := by
        rw [omitsRelation_iff named, Catalog.Stubbed]
        tauto
      by_cases stubbed : expansion.catalog.Stubbed filter hops key target
      · have kept := Bool.eq_false_iff.mpr (mt omitted.mp (not_not.mpr stubbed))
        simp [expandProperty, Catalog.drawnField, relation, seen, kept, capped, stubbed]
      · have dropped := omitted.mpr stubbed
        simp [expandProperty, Catalog.drawnField, relation, seen, dropped, stubbed]
  · exact expandProperty_of_not_shown named shown follow none property

/-- Above the greatest depth the expansion draws each field, if what it follows draws the
branches that are not left out. -/
theorem expandProperty_eq_drawnField_some {hops : Hops} (plain : hops.Plain) {key : String}
    (clean : key ≠ "" ∧ '.' ∉ key.toList) (above : hops.length < expansion.maxDepth)
    {follow : Hops → String → Option Json} {draw : String → Json}
    (draws : ∀ target, follow (hops ++ [key]) target =
      if expansion.omitsBranch filter (hops ++ [key]) target then none else some (draw target))
    (property : Property) :
    expansion.expandProperty filter hops follow key property =
      expansion.catalog.drawnField filter hops (some draw) key property := by
  by_cases shown : filter.Shown hops key
  · cases relation : property.relation? with
    | none => exact expandProperty_of_primitive plain.named shown follow (some draw) relation
    | some target =>
      have seen : filter.shows hops key = true := (Filter.shows_iff plain.named).mpr shown
      have free : ¬ expansion.maxDepth < hops.length + 1 := by omega
      -- The two tests share the work: one for the outermost hop, the other behind it.
      have omitted : (expansion.omitsRelation filter hops key target = true ∨
          expansion.omitsBranch filter (hops ++ [key]) target = true) ↔
            ¬ expansion.catalog.Visible filter hops key target := by
        rw [omitsRelation_iff plain.named, omitsBranch_concat_iff plain clean, Catalog.Visible]
        tauto
      by_cases visible : expansion.catalog.Visible filter hops key target
      · have kept := not_or.mp (mt omitted.mp (not_not.mpr visible))
        simp [expandProperty, Catalog.drawnField, relation, seen, kept, free, visible,
          Hops.child_eq plain.named, draws]
      · rcases omitted.mpr visible with dropped | dropped
        · simp [expandProperty, Catalog.drawnField, relation, seen, dropped, visible]
        · simp [expandProperty, Catalog.drawnField, relation, seen, free, visible,
            Hops.child_eq plain.named, draws, dropped]
  · exact expandProperty_of_not_shown plain.named shown follow (some draw) property

/-- A schema is expanded to what is drawn if each of its fields is. -/
theorem expandSchema_succ_eq_drawn {remaining budget : Nat} {hops : Hops} {name : String}
    (fields : ∀ schema, expansion.catalog.get? name = some schema →
      ∀ entry ∈ schema.properties.entries,
        expansion.expandProperty filter hops (expansion.expandSchema filter budget) entry.1 entry.2 =
          expansion.catalog.drawnField filter hops
            (expansion.catalog.below filter remaining hops entry.1) entry.1 entry.2) :
    expansion.expandSchema filter (budget + 1) hops name =
      if expansion.omitsBranch filter hops name then none
      else some (expansion.catalog.drawn filter remaining hops name) := by
  rw [expandSchema, Catalog.drawn_eq, Catalog.drawnObject]
  cases found : expansion.catalog.get? name with
  | none => simp [omitsBranch, Catalog.isModel_eq_false found]
  | some schema =>
    have same : expansion.expandFields filter hops (expansion.expandSchema filter budget) schema =
        schema.properties.entries.filterMap fun entry =>
          (expansion.catalog.drawnField filter hops
            (expansion.catalog.below filter remaining hops entry.1) entry.1 entry.2).map
              fun value => (entry.1, value) := by
      refine List.filterMap_congr fun entry member => ?_
      rw [fields schema found entry member]
    dsimp only
    rw [same]

/-- A budget above the depth that is left is never used up, and the expansion of a schema is
the drawn example unless its branch is left out. -/
theorem expandSchema_eq_drawn (plain : expansion.catalog.PlainNamed) {remaining budget : Nat}
    {hops : Hops} (plainHops : hops.Plain) (depth : hops.length + remaining = expansion.maxDepth)
    (enough : remaining < budget) (name : String) :
    expansion.expandSchema filter budget hops name =
      if expansion.omitsBranch filter hops name then none
      else some (expansion.catalog.drawn filter remaining hops name) := by
  induction remaining generalizing budget hops name with
  | zero =>
    have positive : ∃ less, budget = less + 1 := ⟨budget - 1, by omega⟩
    rcases positive with ⟨budget, rfl⟩
    apply expandSchema_succ_eq_drawn
    intro schema found entry member
    exact expandProperty_eq_drawnField_none plainHops.named depth _ _ _
  | succ remaining inductionHypothesis =>
    have positive : ∃ less, budget = less + 1 := ⟨budget - 1, by omega⟩
    rcases positive with ⟨budget, rfl⟩
    apply expandSchema_succ_eq_drawn
    intro schema found entry member
    have clean : entry.1 ≠ "" ∧ '.' ∉ entry.1.toList := plain.of_get? found entry member
    have deeper : (hops ++ [entry.1]).length + remaining = expansion.maxDepth := by
      simp only [List.length_append, List.length_singleton]
      omega
    exact expandProperty_eq_drawnField_some plainHops clean (by omega)
      (fun target => inductionHypothesis (plainHops.concat clean) deeper (by omega) target) _

/-- The example of a schema is what its visible chains draw. -/
theorem bare_eq_drawn (plain : expansion.catalog.PlainNamed) (filter : Filter) (name : String) :
    expansion.bare filter name = expansion.catalog.drawn filter expansion.maxDepth [] name := by
  have enough : expansion.maxDepth < expansion.budget := by
    unfold budget
    omega
  rw [bare, expandSchema_eq_drawn plain Hops.plain_nil (Nat.zero_add _) enough]
  rfl

end Expansion
end Routebook
