import Routebook.Proofs.Expansion.Ending

namespace Routebook
namespace Expansion

/-!
# Relations at the greatest depth

A relation to a model within a relation is left out unless it is requested.  The expansion
finds out whether it is when it arrives at the schema behind the relation, and at the greatest
depth it does not go there: it writes a placeholder before it has asked.  A relation that
nobody requested therefore appears at the greatest depth, and at no other.  The theorems here
say for every chain of relations where that happens, and what it means for two examples of
the same schema with different depths.
-/

/-- The property is a relation to a model, and nobody requested it. -/
def Unrequested (expansion : Expansion) (filter : Filter) (hops : Hops) (key : String)
    (property : Property) : Prop :=
  ∃ target, property.relation? = some target ∧ expansion.catalog.isModel target = true ∧
    ¬ filter.Requested hops key

variable {expansion : Expansion} {filter : Filter} {name middle key : String} {links : List Link}
  {schema : Schema} {property : Property}

/-- Nothing is there behind a chain that is longer than the greatest depth: the last of its
links is a placeholder at best. -/
theorem at?_bare_beyond (named : expansion.catalog.Named) (filter : Filter)
    (chain : expansion.catalog.Chain name links middle) (key : String)
    (beyond : expansion.maxDepth < links.length) :
    (expansion.bare filter name).at? (Link.keys links ++ [key]) = none := by
  have nonempty : links ≠ [] := List.length_pos_iff.mp (Nat.zero_lt_of_lt beyond)
  have parted : ∃ before link, links = before ++ [link] :=
    ⟨_, _, (List.dropLast_append_getLast nonempty).symm⟩
  rcases parted with ⟨before, link, rfl⟩
  rw [Json.at?_append]
  cases reached : (expansion.bare filter name).at? (Link.keys (before ++ [link])) with
  | none => rfl
  | some inner =>
    have deep := depth_of_at?_bare named chain reached
    simp only [List.length_append, List.length_singleton] at beyond
    rw [deep.2 (by omega), Option.bind_some]
    exact at?_placeholder _ (List.cons_ne_nil key [])

/-- A field is drawn if it is shown and, as a relation to a model, either requested or a
placeholder within a relation. -/
theorem isSome_drawnField {remaining : Nat} {hops : Hops} :
    (expansion.catalog.drawnField filter hops (expansion.catalog.below filter remaining hops key)
        key property).isSome = true ↔
      filter.Shown hops key ∧
        (expansion.Unrequested filter hops key property → hops ≠ [] ∧ remaining = 0) := by
  unfold Catalog.drawnField Unrequested
  cases relation : property.relation? with
  | none => by_cases shown : filter.Shown hops key <;> simp [shown]
  | some target =>
    cases remaining with
    | zero =>
      have stubbed : expansion.catalog.Stubbed filter hops key target ↔
          filter.Shown hops key ∧ (expansion.catalog.isModel target = true →
            ¬ filter.Requested hops key → hops ≠ []) := by
        rw [Catalog.Stubbed]
        tauto
      by_cases appears : expansion.catalog.Stubbed filter hops key target
      · simpa [Catalog.below, appears] using stubbed.mp appears
      · simpa [Catalog.below, appears] using mt stubbed.mpr appears
    | succ remaining =>
      have visible : expansion.catalog.Visible filter hops key target ↔
          filter.Shown hops key ∧ (expansion.catalog.isModel target = true →
            filter.Requested hops key) := Iff.rfl
      by_cases appears : expansion.catalog.Visible filter hops key target
      · simpa [Catalog.below, appears] using visible.mp appears
      · simpa [Catalog.below, appears] using mt visible.mpr appears

/-- Where a field appears behind a chain: the chain is within the greatest depth and visible,
and the field is shown and requested, or it is a placeholder at the greatest depth. -/
theorem isSome_at?_bare_field (expansion : Expansion) (plain : expansion.catalog.PlainNamed)
    (filter : Filter) (chain : expansion.catalog.Chain name links middle)
    (found : expansion.catalog.get? middle = some schema)
    (written : schema.properties.get? key = some property) :
    ((expansion.bare filter name).at? (Link.keys links ++ [key])).isSome = true ↔
      links.length ≤ expansion.maxDepth ∧ expansion.catalog.VisibleAlong filter [] links ∧
        filter.Shown (Link.keys links) key ∧
        (expansion.Unrequested filter (Link.keys links) key property →
          links ≠ [] ∧ links.length = expansion.maxDepth) := by
  by_cases within : links.length ≤ expansion.maxDepth
  · have deepest : expansion.maxDepth - links.length = 0 ↔ links.length = expansion.maxDepth := by
      omega
    have inside : Link.keys links ≠ [] ↔ links ≠ [] := List.map_eq_nil_iff.not
    rw [at?_bare_field plain filter chain found written within]
    by_cases visible : expansion.catalog.VisibleAlong filter [] links
    · rw [if_pos visible, isSome_drawnField, deepest, inside]
      simp only [within, visible, true_and]
    · simp [visible]
  · rw [at?_bare_beyond plain.named filter chain key (Nat.lt_of_not_le within)]
    simp [within]

/-- A relation to a model within a relation that nobody requested is there exactly at the
greatest depth, as a placeholder, if the filter shows it and every link before it is visible.
A greater depth therefore takes a field away from an example exactly where it is such a
relation at the smaller one. -/
theorem unrequested_relation_appears_iff_at_cap (expansion : Expansion)
    (plain : expansion.catalog.PlainNamed) (filter : Filter) (name : String) :
    (∀ links link final, links ≠ [] → expansion.catalog.Chain name (links ++ [link]) final →
      expansion.catalog.isModel final = true →
      ¬ filter.Requested (Link.keys links) link.key → ∀ value,
        ((expansion.bare filter name).at? (Link.keys (links ++ [link])) = some value ↔
          links.length = expansion.maxDepth ∧ expansion.catalog.VisibleAlong filter [] links ∧
            filter.Shown (Link.keys links) link.key ∧ value = placeholder link.property)) ∧
    ∀ greater links middle schema key property, expansion.maxDepth ≤ greater →
      expansion.catalog.Chain name links middle →
      expansion.catalog.get? middle = some schema →
      schema.properties.get? key = some property →
        (((expansion.bare filter name).at? (Link.keys links ++ [key])).isSome = true ∧
          (bare ⟨expansion.catalog, greater⟩ filter name).at? (Link.keys links ++ [key]) = none ↔
          expansion.maxDepth < greater ∧ links ≠ [] ∧ links.length = expansion.maxDepth ∧
            expansion.catalog.VisibleAlong filter [] links ∧
            filter.Shown (Link.keys links) key ∧
            expansion.Unrequested filter (Link.keys links) key property) := by
  refine ⟨?_, ?_⟩
  · intro links link final inside chain model unrequested value
    rcases chain.concat_inv with ⟨middle, schema, before, found, written, rfl⟩
    have omitted : expansion.Unrequested filter (Link.keys links) link.key link.property :=
      ⟨link.target, link.relation, model, unrequested⟩
    have appears := isSome_at?_bare_field expansion plain filter before found written
    rw [← Link.keys_singleton, ← Link.keys_append] at appears
    constructor
    · intro reached
      rw [reached] at appears
      rcases appears.mp rfl with ⟨_, visible, shown, capped⟩
      have deepest : links.length = expansion.maxDepth := (capped omitted).2
      exact ⟨deepest, visible, shown, (depth_of_at?_bare plain.named chain reached).2 deepest⟩
    · rintro ⟨deepest, visible, shown, rfl⟩
      rcases Option.isSome_iff_exists.mp
        (appears.mpr ⟨Nat.le_of_eq deepest, visible, shown, fun _ => ⟨inside, deepest⟩⟩)
          with ⟨other, reached⟩
      rw [reached, (depth_of_at?_bare plain.named chain reached).2 deepest]
  · intro greater links middle schema key property bound chain found written
    have smaller := isSome_at?_bare_field expansion plain filter chain found written
    have larger := isSome_at?_bare_field ⟨expansion.catalog, greater⟩ plain filter chain found
      written
    rw [← Option.not_isSome_iff_eq_none, smaller, larger]
    dsimp only
    constructor
    · rintro ⟨⟨within, visible, shown, capped⟩, lost⟩
      have omitted : expansion.Unrequested filter (Link.keys links) key property := by
        by_contra requested
        exact lost ⟨Nat.le_trans within bound, visible, shown, fun omitted =>
          absurd omitted requested⟩
      rcases capped omitted with ⟨inside, deepest⟩
      refine ⟨Nat.lt_of_le_of_ne bound fun same => lost ?_, inside, deepest, visible, shown,
        omitted⟩
      exact ⟨Nat.le_trans within bound, visible, shown, fun _ => ⟨inside, deepest.trans same⟩⟩
    · rintro ⟨strict, inside, deepest, visible, shown, omitted⟩
      refine ⟨⟨Nat.le_of_eq deepest, visible, shown, fun _ => ⟨inside, deepest⟩⟩, ?_⟩
      rintro ⟨_, _, _, capped⟩
      have other : links.length = greater := (capped omitted).2
      omega

/-- Users with their posts at the greatest depth one: the author of a post, which nobody asked
for, is there as a placeholder, and at the greatest depth two it is not. -/
theorem blog_author_at_cap :
    Catalog.blog.PlainNamed ∧ Catalog.blog.isModel "User" = true ∧
      ¬ Filter.Requested (.asking ["posts"]) ["posts"] "author" ∧
      (bare ⟨Catalog.blog, 1⟩ (.asking ["posts"]) "User").at? ["posts", "author"] =
        some (.object []) ∧
      (bare ⟨Catalog.blog, 2⟩ (.asking ["posts"]) "User").at? ["posts", "author"] = none := by
  decide +kernel

/-- Both conditions hold of the author of a post at the greatest depth one. -/
theorem unrequested_relation_appears_blog :
    Catalog.blog.PlainNamed ∧
      (bare ⟨Catalog.blog, 1⟩ (.asking ["posts"]) "User").at? ["posts", "author"] =
        some (placeholder Link.author.property) ∧
      ((bare ⟨Catalog.blog, 1⟩ (.asking ["posts"]) "User").at? ["posts", "author"]).isSome = true ∧
      (bare ⟨Catalog.blog, 2⟩ (.asking ["posts"]) "User").at? ["posts", "author"] = none := by
  have plain : Catalog.blog.PlainNamed := by decide
  have conditions := unrequested_relation_appears_iff_at_cap ⟨Catalog.blog, 1⟩ plain
    (.asking ["posts"]) "User"
  have placed := (conditions.1 [Link.posts] Link.author "User" (by decide)
    Catalog.chain_posts_author (by decide) (by decide +kernel)
    (placeholder Link.author.property)).mpr ⟨rfl, by decide, by decide +kernel, rfl⟩
  have lost := (conditions.2 2 [Link.posts] "Post" _ "author" _ (by decide)
    (.cons rfl rfl (.nil _)) rfl rfl).mpr ⟨by decide, by decide, rfl, by decide, by decide +kernel,
      "User", rfl, by decide, by decide +kernel⟩
  exact ⟨plain, placed, lost⟩

end Expansion
end Routebook
