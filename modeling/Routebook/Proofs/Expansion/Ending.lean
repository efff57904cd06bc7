import Routebook.Proofs.Catalog.Names
import Routebook.Proofs.Expansion.Chain
import Routebook.Proofs.Expansion.Step

namespace Routebook
namespace Expansion

/-!
# Every expansion ends

The budget of an expansion makes it a total function; it is no part of what an example means.
`Expands` is the same recursion without a budget.  It relates a schema to a result only if
every chain of relations that the recursion follows comes to an end.  If no property has an
empty name, each step makes the hops longer, the greatest depth stops them, and the budget is
never used up.  A relation with an empty name goes on forever, so the condition is needed.
-/

/-- The expansion of a schema without a budget.  The function `follow` is free, but for each
relation that is followed it has to be an expansion again. -/
inductive Expands (expansion : Expansion) (filter : Filter) : Hops → String → Option Json → Prop
  where
  | unknown {hops : Hops} {name : String} (missing : expansion.catalog.get? name = none) :
      Expands expansion filter hops name (some (.object []))
  | omitted {hops : Hops} {name : String} {schema : Schema}
      (found : expansion.catalog.get? name = some schema)
      (unrequested : expansion.omitsBranch filter hops name = true) :
      Expands expansion filter hops name none
  | object {hops : Hops} {name : String} {schema : Schema} {follow : Hops → String → Option Json}
      (found : expansion.catalog.get? name = some schema)
      (requested : expansion.omitsBranch filter hops name = false)
      (follows : ∀ entry ∈ schema.properties.entries, ∀ target,
        expansion.Follows filter hops entry.1 entry.2 target →
          Expands expansion filter (hops.child entry.1) target (follow (hops.child entry.1) target)) :
      Expands expansion filter hops name
        (some (.object (expansion.expandFields filter hops follow schema)))

variable {expansion : Expansion} {filter : Filter} {hops : Hops} {name : String}

/-- What a schema expands to is an object. -/
theorem Expands.eq_object {value : Json} (expands : expansion.Expands filter hops name (some value)) :
    ∃ fields, value = .object fields := by
  cases expands with
  | unknown => exact ⟨_, rfl⟩
  | object => exact ⟨_, rfl⟩

/-! ## The result is the one within the budget -/

/-- A schema has at most one expansion. -/
theorem Expands.unique {first second : Option Json} (one : expansion.Expands filter hops name first)
    (other : expansion.Expands filter hops name second) : first = second := by
  induction one generalizing second with
  | unknown missing =>
    cases other with
    | unknown => rfl
    | omitted found | object found => exact absurd (missing.symm.trans found) nofun
  | omitted found unrequested =>
    cases other with
    | unknown missing => exact absurd (missing.symm.trans found) nofun
    | omitted => rfl
    | object _ requested => exact absurd (requested.symm.trans unrequested) nofun
  | object found requested follows inductionHypothesis =>
    cases other with
    | unknown missing => exact absurd (missing.symm.trans found) nofun
    | omitted _ unrequested => exact absurd (requested.symm.trans unrequested) nofun
    | object found' _ follows' =>
      rcases Option.some.inj (found.symm.trans found') with rfl
      have same := expandFields_congr fun entry member target followed =>
        inductionHypothesis entry member target followed (follows' entry member target followed)
      rw [same]

/-- If no name is empty, a budget above the depth that is left is never used up. -/
theorem expands_expandSchema (named : expansion.catalog.Named) {budget : Nat} (namedHops : hops.Named)
    (within : hops.length ≤ expansion.maxDepth) (enough : expansion.maxDepth < hops.length + budget) :
    expansion.Expands filter hops name (expansion.expandSchema filter budget hops name) := by
  induction budget generalizing hops name with
  | zero => omega
  | succ budget inductionHypothesis =>
    rw [expandSchema]
    cases found : expansion.catalog.get? name with
    | none => exact .unknown found
    | some schema =>
      dsimp only
      split
      next unrequested => exact .omitted found unrequested
      next requested =>
        refine .object found (Bool.eq_false_iff.mpr requested) ?_
        intro entry member target followed
        have nonempty : entry.1 ≠ "" := named.of_get? found entry member
        have deeper : (hops ++ [entry.1]).length = hops.length + 1 := List.length_append
        have free : hops.length < expansion.maxDepth := followed.2.2.2
        rw [Hops.child_eq namedHops]
        exact inductionHypothesis (namedHops.concat nonempty) (by omega) (by omega)

/-- The example of a schema is its expansion. -/
theorem expands_bare (named : expansion.catalog.Named) (filter : Filter) (name : String) :
    expansion.Expands filter [] name (some (expansion.bare filter name)) := by
  have enough : expansion.maxDepth < ([] : Hops).length + expansion.budget := by
    unfold budget
    simp only [List.length_nil]
    omega
  have expands : expansion.Expands filter [] name
      (expansion.expandSchema filter expansion.budget [] name) :=
    expands_expandSchema named Hops.named_nil (Nat.zero_le _) enough
  rcases expandSchema_root expansion filter expansion.budget name with ⟨value, reached⟩
  rw [bare, reached]
  exact reached ▸ expands

/-- A relation without a name that leads back to its own schema is followed forever: behind it
the hops have a path that is empty, so no step makes them longer. -/
theorem not_expands_of_nameless_cycle {schema : Schema} {property : Property} {result : Option Json}
    (found : expansion.catalog.get? name = some schema)
    (written : schema.properties.get? "" = some property)
    (followed : expansion.Follows filter [""] "" property name) :
    ¬ expansion.Expands filter [""] name result := by
  intro expands
  generalize same : ([""] : Hops) = hops at expands
  induction expands with
  | unknown missing => exact absurd (missing.symm.trans found) nofun
  | omitted _ unrequested =>
    subst same
    exact Bool.false_ne_true unrequested
  | object found' _ _ inductionHypothesis =>
    subst same
    rcases Option.some.inj (found'.symm.trans found) with rfl
    exact inductionHypothesis ("", property) (mem_of_entryAt?_eq_some written) _ followed found
      followed rfl

/-! ## Depth -/

/-- What is read within a relation is read within the object that it leads to. -/
theorem at?_wrap_object (property : Property) (fields : List (String × Json)) {keys : List String}
    (nonempty : keys ≠ []) :
    (wrap property (.object fields)).at? keys = (Json.object fields).at? keys := by
  rcases List.exists_cons_of_ne_nil nonempty with ⟨key, keys, rfl⟩
  unfold wrap
  split <;> rfl

/-- Nothing is read within a placeholder. -/
theorem at?_placeholder (property : Property) {keys : List String} (nonempty : keys ≠ []) :
    (placeholder property).at? keys = none := by
  rcases List.exists_cons_of_ne_nil nonempty with ⟨key, keys, rfl⟩
  unfold placeholder
  split <;> rfl

/-- A chain that is read within the fields of a schema starts with one of its properties. -/
theorem read_first_link {follow : Hops → String → Option Json} {schema : Schema} {head : Link}
    {rest : List Link} {final : String} {inner : Json}
    (found : expansion.catalog.get? name = some schema)
    (chain : expansion.catalog.Chain name (head :: rest) final)
    (reached : (Json.object (expansion.expandFields filter hops follow schema)).at?
      (Link.keys (head :: rest)) = some inner) :
    expansion.catalog.Chain head.target rest final ∧
      (head.key, head.property) ∈ schema.properties.entries ∧
      ∃ value, expansion.expandProperty filter hops follow head.key head.property = some value ∧
        value.at? (Link.keys rest) = some inner := by
  cases chain with
  | cons found' written further =>
    rcases Option.some.inj (found'.symm.trans found) with rfl
    rw [Link.keys, List.map_cons, Json.at?_cons, Json.content_object, Json.get?_object,
      entryAt?_expandFields, written, Option.bind_some] at reached
    rcases Option.bind_eq_some_iff.mp reached with ⟨value, appears, inside⟩
    exact ⟨further, mem_of_entryAt?_eq_some written, value, appears, inside⟩

/-- If a chain is read beyond its first link, that relation is followed: nothing is read within
a placeholder. -/
theorem follows_first_link {follow : Hops → String → Option Json} {schema : Schema} {head : Link}
    {rest : List Link} {final : String} {inner : Json}
    (found : expansion.catalog.get? name = some schema)
    (chain : expansion.catalog.Chain name (head :: rest) final) (beyond : Link.keys rest ≠ [])
    (reached : (Json.object (expansion.expandFields filter hops follow schema)).at?
      (Link.keys (head :: rest)) = some inner) :
    expansion.catalog.Chain head.target rest final ∧
      (head.key, head.property) ∈ schema.properties.entries ∧
      expansion.Follows filter hops head.key head.property head.target ∧
      ∃ nested, follow (hops.child head.key) head.target = some nested ∧
        (wrap head.property nested).at? (Link.keys rest) = some inner := by
  rcases read_first_link found chain reached with ⟨further, member, value, appears, inside⟩
  rcases (expandProperty_cases appears).2 with ⟨primitive, _⟩ | ⟨_, _, _, stub⟩ |
    ⟨target, nested, followed, behind, wrapped⟩
  · exact absurd (primitive.symm.trans head.relation) nofun
  · rw [stub, at?_placeholder _ beyond] at inside
    cases inside
  · have aimed : head.target = target := Option.some.inj (head.relation.symm.trans followed.2.1)
    rcases aimed with rfl
    exact ⟨further, member, followed, nested, behind, wrapped ▸ inside⟩

/-- No chain of relations within an expansion passes the greatest depth by more than one
relation, and that last one is a placeholder. -/
theorem Expands.depth_of_at? (named : expansion.catalog.Named) {result : Option Json}
    (expands : expansion.Expands filter hops name result) (namedHops : hops.Named)
    (within : hops.length ≤ expansion.maxDepth) {value inner : Json} (made : result = some value)
    {links : List Link} {link : Link} {final : String}
    (chain : expansion.catalog.Chain name (links ++ [link]) final)
    (reached : value.at? (Link.keys (links ++ [link])) = some inner) :
    hops.length + links.length ≤ expansion.maxDepth ∧
      (hops.length + links.length = expansion.maxDepth → inner = placeholder link.property) := by
  induction expands generalizing value links with
  | unknown =>
    rcases Option.some.inj made with rfl
    cases links <;> cases reached
  | omitted => cases made
  | @object hops name schema follow found _ follows inductionHypothesis =>
    rcases Option.some.inj made with rfl
    cases links with
    | nil =>
      rcases read_first_link found chain reached with ⟨_, _, value, appears, inside⟩
      have same : value = inner := Option.some.inj inside
      rcases same with rfl
      refine ⟨within, fun deepest => ?_⟩
      rcases (expandProperty_cases appears).2 with ⟨primitive, _⟩ | ⟨_, _, _, stub⟩ |
        ⟨_, _, followed, _⟩
      · exact absurd (primitive.symm.trans link.relation) nofun
      · exact stub
      · have free : hops.length < expansion.maxDepth := followed.2.2.2
        simp only [List.length_nil] at deepest
        omega
    | cons head rest =>
      rw [List.cons_append] at chain reached
      have beyond : Link.keys (rest ++ [link]) ≠ [] := by simp [Link.keys]
      rcases follows_first_link found chain beyond reached with
        ⟨further, member, followed, nested, behind, inside⟩
      have keyed : head.key ≠ "" := named.of_get? found _ member
      have free : hops.length < expansion.maxDepth := followed.2.2.2
      have deeper : (hops ++ [head.key]).length = hops.length + 1 := List.length_append
      have expands := follows _ member _ followed
      have induced := inductionHypothesis _ member _ followed
      rw [Hops.child_eq namedHops] at behind expands induced
      dsimp only at expands induced
      rw [behind] at expands induced
      rcases expands.eq_object with ⟨fields, rfl⟩
      rw [at?_wrap_object _ _ beyond] at inside
      have deep := induced (namedHops.concat keyed) (by omega) rfl further inside
      simp only [List.length_cons]
      exact ⟨by omega, fun deepest => deep.2 (by omega)⟩

/-- The same of the example of a schema. -/
theorem depth_of_at?_bare (named : expansion.catalog.Named) {links : List Link} {link : Link}
    {final : String} {inner : Json}
    (chain : expansion.catalog.Chain name (links ++ [link]) final)
    (reached : (expansion.bare filter name).at? (Link.keys (links ++ [link])) = some inner) :
    links.length ≤ expansion.maxDepth ∧
      (links.length = expansion.maxDepth → inner = placeholder link.property) := by
  have deep := (expands_bare named filter name).depth_of_at? named Hops.named_nil (Nat.zero_le _)
    rfl chain reached
  rwa [List.length_nil, Nat.zero_add] at deep

/-! ## All catalogs -/

/-- Every catalog of sources names its properties, and for every catalog that does, whatever
cycles its relations make, each expansion ends, with one example.  No chain of relations in
that example is longer than the greatest depth and one more, and a chain of that length leads
to a placeholder. -/
theorem named_expansions_end :
    (∀ interfaces models snake stream,
      (Catalog.build interfaces models snake stream).Named) ∧
    ∀ expansion : Expansion, expansion.catalog.Named → ∀ filter name,
      (∀ result, expansion.Expands filter [] name result ↔
        result = some (expansion.bare filter name)) ∧
      ∀ links link final inner, expansion.catalog.Chain name (links ++ [link]) final →
        (expansion.bare filter name).at? (Link.keys (links ++ [link])) = some inner →
          (links ++ [link]).length ≤ expansion.maxDepth + 1 ∧
          ((links ++ [link]).length = expansion.maxDepth + 1 →
            inner = placeholder link.property) := by
  refine ⟨Catalog.named_build, ?_⟩
  intro expansion named filter name
  have expands : expansion.Expands filter [] name (some (expansion.bare filter name)) :=
    expands_bare named filter name
  refine ⟨fun result => ⟨fun other => other.unique expands, fun same => same ▸ expands⟩, ?_⟩
  intro links link final inner chain reached
  have deep := depth_of_at?_bare named chain reached
  rw [List.length_append, List.length_singleton]
  exact ⟨Nat.succ_le_succ deep.1, fun deepest => deep.2 (Nat.succ.inj deepest)⟩

/-- Users with their posts at the greatest depth one: the author of a post is the second
relation, and a placeholder. -/
theorem named_expansions_end_blog :
    Catalog.blog.Named ∧
      (∀ result, Expands ⟨Catalog.blog, 1⟩ (.asking ["posts"]) [] "User" result ↔
        result = some (bare ⟨Catalog.blog, 1⟩ (.asking ["posts"]) "User")) ∧
      (bare ⟨Catalog.blog, 1⟩ (.asking ["posts"]) "User").at? ["posts", "author"] =
        some (.object []) ∧
      (.object [] : Json) = placeholder Link.author.property := by
  have named : Catalog.blog.Named := by decide
  have placed : (bare ⟨Catalog.blog, 1⟩ (.asking ["posts"]) "User").at? ["posts", "author"] =
      some (.object []) := by decide +kernel
  have ends := named_expansions_end.2 ⟨Catalog.blog, 1⟩ named (.asking ["posts"]) "User"
  have deep := ends.2 [Link.posts] Link.author "User" (.object []) Catalog.chain_posts_author placed
  exact ⟨named, ends.1, placed, deep.2 rfl⟩

end Expansion
end Routebook
