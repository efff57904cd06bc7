import Routebook.Proofs.Catalog.Definitions
import Routebook.Proofs.Expansion.Ending

namespace Routebook

/-!
# What an example depends on

The expansion of a schema asks the catalog for definitions, and it asks whether a name is a
model.  It asks both only of names to which a row of relations leads from the schema, those
without a definition among them.  Two catalogs that agree on these names therefore give the
same example, whatever else they hold and however the relations run in circles.

The budgets of the two expansions differ, since they grow with the catalog.  The comparison is
made between expansions without a budget, and each of these has one result.
-/

namespace Catalog

/-- A row of relations leads from the one name to the other. -/
def Reaches (catalog : Catalog) (name target : String) : Prop :=
  ∃ links, catalog.Chain name links target

variable {first second catalog : Catalog} {name middle target : String}

theorem reaches_self (catalog : Catalog) (name : String) : catalog.Reaches name name :=
  ⟨[], .nil name⟩

/-- What a relation of a schema leads to is reached, and so is all that is reached from
there. -/
theorem Reaches.of_relation {schema : Schema} {entry : String × Property}
    (found : catalog.get? name = some schema) (written : entry ∈ schema.properties.entries)
    (relation : entry.2.relation? = some middle) (further : catalog.Reaches middle target) :
    catalog.Reaches name target := by
  rcases further with ⟨links, chain⟩
  have known : schema.properties.get? entry.1 = some entry.2 :=
    entryAt?_eq_some_of_mem schema.properties.distinct written
  exact ⟨⟨entry.1, entry.2, middle, relation⟩ :: links, .cons found known chain⟩

/-- Names that hold the first one and all targets of their own relations hold everything that
is reached. -/
theorem Reaches.mem_of_closed (reached : catalog.Reaches name target) (names : List String)
    (inside : name ∈ names)
    (closed : ∀ schema ∈ catalog.schemas, schema.name ∈ names →
      ∀ entry ∈ schema.properties.entries, ∀ next ∈ entry.2.relation?, next ∈ names) :
    target ∈ names := by
  rcases reached with ⟨links, chain⟩
  induction chain with
  | nil => exact inside
  | @cons name final schema link links found written rest inductionHypothesis =>
    have same : schema.name = name := by simpa using List.find?_some found
    apply inductionHypothesis
    exact closed schema (List.mem_of_find?_eq_some found) (same ▸ inside)
      (link.key, link.property) (mem_of_entryAt?_eq_some written) link.target link.relation

/-! ## Catalogs that agree -/

/-- The second catalog has the same definition, or none, for every name that the first one
reaches. -/
def AgreesFrom (first second : Catalog) (name : String) : Prop :=
  ∀ target, first.Reaches name target → first.get? target = second.get? target

theorem AgreesFrom.get? (agrees : first.AgreesFrom second name) :
    first.get? name = second.get? name :=
  agrees name (reaches_self first name)

theorem AgreesFrom.isModel (agrees : first.AgreesFrom second name) :
    first.isModel name = second.isModel name := by
  rw [Catalog.isModel, Catalog.isModel, agrees.get?]

theorem AgreesFrom.of_relation (agrees : first.AgreesFrom second name) {schema : Schema}
    {entry : String × Property} (found : first.get? name = some schema)
    (written : entry ∈ schema.properties.entries) (relation : entry.2.relation? = some target) :
    first.AgreesFrom second target :=
  fun other further => agrees other (further.of_relation found written relation)

theorem AgreesFrom.of_chain (agrees : first.AgreesFrom second name) {links : List Link}
    (chain : first.Chain name links target) : second.Chain name links target := by
  induction chain with
  | nil name => exact .nil name
  | @cons name final schema link links found written rest inductionHypothesis =>
    have member := mem_of_entryAt?_eq_some written
    refine .cons (agrees.get?.symm.trans found) written ?_
    exact inductionHypothesis (agrees.of_relation found member link.relation)

/-- It does not matter on which side the names are collected. -/
theorem AgreesFrom.symm (agrees : first.AgreesFrom second name) :
    second.AgreesFrom first name := by
  have back : ∀ target, second.Reaches name target → first.Reaches name target := by
    rintro target ⟨links, chain⟩
    induction chain with
    | nil name => exact reaches_self first name
    | @cons name final schema link links found written rest inductionHypothesis =>
      have known : first.get? name = some schema := agrees.get?.trans found
      have member := mem_of_entryAt?_eq_some written
      apply Reaches.of_relation known member link.relation
      exact inductionHypothesis (agrees.of_relation known member link.relation)
  exact fun target reached => (agrees target (back target reached)).symm

theorem AgreesFrom.reaches_iff (agrees : first.AgreesFrom second name) :
    first.Reaches name target ↔ second.Reaches name target :=
  ⟨fun ⟨links, chain⟩ => ⟨links, agrees.of_chain chain⟩,
    fun ⟨links, chain⟩ => ⟨links, agrees.symm.of_chain chain⟩⟩

/-- A change at a name that is not reached keeps the agreement. -/
theorem agreesFrom_of_unreached {changed : String} (unreached : ¬ first.Reaches name changed)
    (same : ∀ other, other ≠ changed → first.get? other = second.get? other) :
    first.AgreesFrom second name := by
  intro target reached
  apply same
  rintro rfl
  exact unreached reached

end Catalog

/-! ## Expansions of catalogs that agree -/

namespace Expansion

variable {first second : Catalog} {maxDepth : Nat} {filter : Filter} {hops : Hops}
  {follow : Hops → String → Option Json} {key name target : String} {property : Property}

/-- Of the catalog an outermost relation uses only whether its target is a model. -/
theorem omitsRelation_eq_of_isModel (model : first.isModel target = second.isModel target) :
    omitsRelation ⟨first, maxDepth⟩ filter hops key target =
      omitsRelation ⟨second, maxDepth⟩ filter hops key target := by
  unfold omitsRelation
  rw [model]

theorem expandProperty_eq_of_isModel
    (models : ∀ target, property.relation? = some target →
      first.isModel target = second.isModel target) :
    expandProperty ⟨first, maxDepth⟩ filter hops follow key property =
      expandProperty ⟨second, maxDepth⟩ filter hops follow key property := by
  unfold expandProperty
  cases relation : property.relation? with
  | none => rfl
  | some target =>
    dsimp only
    rw [omitsRelation_eq_of_isModel (models target relation)]

theorem expandFields_eq_of_isModel {schema : Schema}
    (models : ∀ entry ∈ schema.properties.entries, ∀ target, entry.2.relation? = some target →
      first.isModel target = second.isModel target) :
    expandFields ⟨first, maxDepth⟩ filter hops follow schema =
      expandFields ⟨second, maxDepth⟩ filter hops follow schema := by
  apply List.filterMap_congr
  intro entry member
  rw [expandProperty_eq_of_isModel (models entry member)]

theorem Follows.of_model (model : first.isModel target = second.isModel target)
    (follows : Follows ⟨second, maxDepth⟩ filter hops key property target) :
    Follows ⟨first, maxDepth⟩ filter hops key property target := by
  rcases follows with ⟨shown, relation, kept, free⟩
  exact ⟨shown, relation, (omitsRelation_eq_of_isModel model).trans kept, free⟩

/-- The induction is on the expansion in the first catalog.  A definition that it comes upon is
one that the second catalog has too, and the agreement holds on behind every relation of that
definition, also behind those that the filter leaves out. -/
theorem Expands.of_agreesFrom {result : Option Json}
    (expands : Expands ⟨first, maxDepth⟩ filter hops name result)
    (agrees : first.AgreesFrom second name) :
    Expands ⟨second, maxDepth⟩ filter hops name result := by
  induction expands with
  | unknown missing => exact .unknown (agrees.get?.symm.trans missing)
  | omitted found unrequested =>
    refine .omitted (agrees.get?.symm.trans found) ?_
    rwa [omitsBranch, agrees.isModel] at unrequested
  | @object _ _ schema _ found requested follows inductionHypothesis =>
    have models : ∀ entry ∈ schema.properties.entries, ∀ target, entry.2.relation? = some target →
        first.isModel target = second.isModel target := by
      intro entry member target relation
      exact (agrees.of_relation found member relation).isModel
    rw [expandFields_eq_of_isModel models]
    refine .object (agrees.get?.symm.trans found) ?_ ?_
    · rwa [omitsBranch, agrees.isModel] at requested
    · intro entry member target followed
      have relation : entry.2.relation? = some target := followed.2.1
      apply inductionHypothesis entry member target
      · exact followed.of_model (models entry member target relation)
      · exact agrees.of_relation found member relation

theorem expand_eq_of_agreesFrom (namedFirst : first.Named) (namedSecond : second.Named)
    (agrees : first.AgreesFrom second name) :
    expand ⟨first, maxDepth⟩ filter name = expand ⟨second, maxDepth⟩ filter name := by
  have one : Expands ⟨first, maxDepth⟩ filter [] name (some (bare ⟨first, maxDepth⟩ filter name)) :=
    expands_bare namedFirst filter name
  have other := (one.of_agreesFrom agrees).unique (expands_bare namedSecond filter name)
  rw [expand, expand, Option.some.inj other]

/-- The example of a schema depends on the definitions that it reaches and on nothing else.
Catalogs that agree on all of them, one of which may have no definition for a name only if the
other has none, reach the same names and give the same example.  So a schema that is not
reached may be added, replaced or removed. -/
theorem example_depends_on_reached (first second : Catalog) (namedFirst : first.Named)
    (namedSecond : second.Named) (maxDepth : Nat) (filter : Filter) (name : String) :
    ((∀ target, first.Reaches name target → first.get? target = second.get? target) →
      (∀ target, first.Reaches name target ↔ second.Reaches name target) ∧
        expand ⟨first, maxDepth⟩ filter name = expand ⟨second, maxDepth⟩ filter name) ∧
    (∀ changed, ¬ first.Reaches name changed →
      (∀ other, other ≠ changed → first.get? other = second.get? other) →
        expand ⟨first, maxDepth⟩ filter name = expand ⟨second, maxDepth⟩ filter name) ∧
    ∀ schema, schema.All (fun key _ => key ≠ "") → ¬ first.Reaches name schema.name →
      expand ⟨first.insert schema, maxDepth⟩ filter name =
        expand ⟨first, maxDepth⟩ filter name := by
  refine ⟨?_, ?_, ?_⟩
  · intro agrees
    exact ⟨fun target => Catalog.AgreesFrom.reaches_iff agrees,
      expand_eq_of_agreesFrom namedFirst namedSecond agrees⟩
  · intro changed unreached same
    apply expand_eq_of_agreesFrom namedFirst namedSecond
    exact Catalog.agreesFrom_of_unreached unreached same
  · intro schema obeys unreached
    have namedInserted : (first.insert schema).Named := Catalog.All.insert namedFirst obeys
    symm
    apply expand_eq_of_agreesFrom namedFirst namedInserted
    apply Catalog.agreesFrom_of_unreached unreached
    intro other different
    rw [Catalog.get?_insert, if_neg different]

/-- The example of a user reaches posts and users.  It is the same in a catalog that also has
tags, and in one that has comments in their place. -/
theorem example_depends_on_reached_blog :
    let tag : Schema := ⟨"Tag", .model, .ofList [("user", .ofReference "User")]⟩
    let comment : Schema := ⟨"Tag", .interface, .ofList [("text", .ofPrimitive "string" .null)]⟩
    let tagged := Catalog.blog.insert tag
    let commented := Catalog.blog.insert comment
    let filter := Filter.asking ["posts", "posts.author"]
    tagged.Named ∧ commented.Named ∧ ¬ tagged.Reaches "User" "Tag" ∧
      (∀ other, other ≠ "Tag" → tagged.get? other = commented.get? other) ∧
      (∀ target, tagged.Reaches "User" target → tagged.get? target = commented.get? target) ∧
      expand ⟨tagged, 3⟩ filter "User" = expand ⟨commented, 3⟩ filter "User" ∧
      tag.All (fun key _ => key ≠ "") ∧ ¬ commented.Reaches "User" tag.name ∧
      expand ⟨commented.insert tag, 3⟩ filter "User" = expand ⟨commented, 3⟩ filter "User" := by
  intro tag comment tagged commented filter
  have namedTagged : tagged.Named := by decide
  have namedCommented : commented.Named := by decide
  have unreached : ¬ tagged.Reaches "User" "Tag" := by
    intro reached
    have among := reached.mem_of_closed ["User", "Post"] (by decide) (by decide)
    exact absurd among (by decide)
  have missed : ¬ commented.Reaches "User" tag.name := by
    intro reached
    have among := reached.mem_of_closed ["User", "Post"] (by decide) (by decide)
    exact absurd among (by decide)
  have same : ∀ other, other ≠ "Tag" → tagged.get? other = commented.get? other := by
    intro other different
    rw [Catalog.get?_insert, Catalog.get?_insert, if_neg different, if_neg different]
  have agrees := Catalog.agreesFrom_of_unreached unreached same
  have depends := example_depends_on_reached tagged commented namedTagged namedCommented 3 filter
    "User"
  have added := (example_depends_on_reached commented commented namedCommented namedCommented 3
    filter "User").2.2 tag (by decide) missed
  exact ⟨namedTagged, namedCommented, unreached, same, agrees, (depends.1 agrees).2, by decide,
    missed, added⟩

end Expansion
end Routebook
